import PatternLint.FileTree.Lookup

namespace PatternLint.FileTree

def enter (tree : FileTree) (place : Location) : Step → Option (FileTree × Location)
  | .here => some (tree, place)
  | .up => some (tree, place.dropLast)
  | .tooLong => none
  | .down name =>
    match tree.stands? (place ++ [name]) with
    | none => some (tree.put (place ++ [name]) .directory, place ++ [name])
    | some _ =>
      match tree.follow linkLimit place [.down name] with
      | .ok (.directory location) => some (tree, location)
      | _ => none

def enterAll (tree : FileTree) (place : Location) : List Step → Option (FileTree × Location)
  | [] => some (tree, place)
  | step :: rest =>
    match tree.enter place step with
    | some (tree, place) => enterAll tree place rest
    | none => none

/-- Puts an entry into a directory. A directory that is there stays, and a file is written through
a link that leads to a file. -/
def store (tree : FileTree) (place : Location) (name : FileName) (entry : Entry) : FileTree :=
  match entry, tree.follow linkLimit place [.down name] with
  | .directory, .ok (.directory _) => tree
  | .file bytes, .ok (.file location _) => tree.put location (.file bytes)
  | _, _ => tree.put (place ++ [name]) entry

/-- Writes an entry, making the directories above it; a path that leads nowhere writes nothing. -/
def write (tree : FileTree) (base : Location) (path : RawText) (entry : Entry) : FileTree :=
  match (steps path).reverse with
  | .down name :: above =>
    match tree.enterAll (beginning base path) above.reverse with
    | some (tree, place) => tree.store place name entry
    | none => tree
  | _ => tree

end PatternLint.FileTree
