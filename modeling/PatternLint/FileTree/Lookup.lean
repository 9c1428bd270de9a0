import PatternLint.Error
import PatternLint.FileTree.Basic
import PatternLint.Path

/-!
Finding what a path leads to. Names are taken one by one from a directory; a link is replaced by the
path it holds, and after forty links the search is given up.
-/

namespace PatternLint.FileTree

inductive Step where
  | here
  | up
  | down (name : FileName)
  | tooLong

/-- An empty piece, as between two slashes or after the last, only asks for a directory. -/
def stepOf (piece : RawText) : Step :=
  if piece = [Path.dot, Path.dot] then .up
  else
    match FileName.ofBytes? piece with
    | some name => .down name
    | none => if nameLimit < piece.length then .tooLong else .here

def steps (path : RawText) : List Step := (Text.pieces Path.slash path).map stepOf

inductive Found where
  | file (location : Location) (bytes : ByteArray)
  | directory (location : Location)

def linkLimit : Nat := 40

def pathLimit : Nat := 4096

/-- Where a path begins: a relative one at the directory `base`. -/
def beginning (base : Location) (path : RawText) : Location :=
  if Path.isAbsolute path then [] else base

def follow (tree : FileTree) (links : Nat) (place : Location) : List Step → Except IoFault Found
  | [] => .ok (.directory place)
  | .here :: rest => follow tree links place rest
  | .up :: rest => follow tree links place.dropLast rest
  | .tooLong :: _ => .error .nameTooLong
  | .down name :: rest =>
    match tree.stands? (place ++ [name]) with
    | none => .error .notFound
    | some .directory => follow tree links (place ++ [name]) rest
    | some (.file bytes) =>
      if rest.isEmpty then .ok (.file (place ++ [name]) bytes) else .error .notDirectory
    | some (.link target) =>
      match links with
      | 0 => .error .tooManyLinks
      | links + 1 =>
        follow tree links (beginning place target) (steps target ++ rest)
  termination_by list => (links, list.length)

def resolve (tree : FileTree) (base : Location) (path : RawText) : Except IoFault Found :=
  if path.contains 0 then .error .nulInName
  else if path.isEmpty then .error .notFound
  else if path.length ≥ pathLimit then .error .nameTooLong
  else follow tree linkLimit (beginning base path) (steps path)

def resolveDirectory (tree : FileTree) (base : Location) (path : RawText) :
    Except IoFault Location := do
  match ← tree.resolve base path with
  | .directory location => return location
  | .file .. => throw .rootNotDirectory

def read (tree : FileTree) (base : Location) (path : RawText) : Except IoFault ByteArray := do
  match ← tree.resolve base path with
  | .file _ bytes => return bytes
  | .directory _ => throw .isDirectory

def leads (tree : FileTree) (base : Location) (path : RawText) : Bool :=
  (tree.resolve base path).toOption.isSome

def leadsToFile (tree : FileTree) (base : Location) (path : RawText) : Bool :=
  match tree.resolve base path with
  | .ok (.file ..) => true
  | _ => false

end PatternLint.FileTree
