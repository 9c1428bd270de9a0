import PatternLint.FileTree.Lookup

/-!
Walking a directory. Entries are taken in the order of their names, and everything is looked up by
its path, so a walk ends where paths get too long. Links are passed over, or stand for what they
lead to; one that leads back to a directory on its own path is not gone into.
-/

namespace PatternLint.FileTree

inductive Hindrance where
  | unread (path : RawText) (fault : IoFault)
  | loop (path ancestor : RawText)
deriving BEq, Repr

def Hindrance.message : Hindrance → String
  | unread path fault =>
    "IO error for operation on " ++ Text.display path ++ ": " ++ fault.message
  | loop path ancestor =>
    "File system loop found: " ++ Text.display path ++ " points to an ancestor " ++
      Text.display ancestor

inductive Met where
  | file (path : RawText)
  | hindered (hindrance : Hindrance)

def Met.file? : Met → Option RawText
  | file path => some path
  | hindered _ => none

def Met.hindrance? : Met → Option Hindrance
  | file _ => none
  | hindered hindrance => some hindrance

inductive Onward where
  | file
  | directory
  | hindered (hindrance : Hindrance)
  | nothing

variable (tree : FileTree) (base : Location)

def leadsToDirectory (location : Location) (path : RawText) : Bool :=
  match tree.resolve base path with
  | .ok (.directory place) => place = location
  | _ => false

/-- What a link stands for. `entered` are the paths of the directories on the way to it, the last
one first. -/
def linked (entered : List RawText) (path : RawText) : Onward :=
  match tree.resolve base path with
  | .error fault => .hindered (.unread path fault)
  | .ok (.file ..) => .file
  | .ok (.directory place) =>
    match entered.find? (leadsToDirectory tree base place) with
    | some ancestor => .hindered (.loop path ancestor)
    | none => .directory

def onward (followLinks : Bool) (entered : List RawText) (path : RawText) : Entry → Onward
  | .file _ => .file
  | .directory => .directory
  | .link _ => if followLinks then tree.linked base entered path else .nothing

theorem join_name_length (path : RawText) (name : FileName) :
    path.length < (Path.join path name.bytes).length := by
  have valid := name.valid
  simp only [isFileName, Bool.and_eq_true, bne_iff_ne, Bool.not_eq_true',
    List.contains_eq_mem, decide_eq_false_iff_not] at valid
  have given := List.length_pos_iff.mpr valid.1.1.1.1.1
  have bare : Path.isAbsolute name.bytes = false := by
    rw [Path.isAbsolute, decide_eq_false_iff_not]
    exact fun first => valid.1.1.2 (List.mem_of_mem_head? first)
  unfold Path.join
  rw [bare, Bool.false_or]
  split
  · rename_i empty
    rwa [List.isEmpty_iff.mp empty]
  · split <;> simp only [List.length_append, List.length_cons] <;> omega

theorem length_lt_of_resolve (path : RawText) (found : Found)
    (opened : tree.resolve base path = .ok found) : path.length < pathLimit := by
  unfold resolve at opened
  split at opened
  · cases opened
  split at opened
  · cases opened
  split at opened
  · cases opened
  · omega

/-- What is met below the path of a directory. `prunes` tells by its path which directory to pass
over. -/
def walk (followLinks : Bool) (prunes : RawText → Bool) (entered : List RawText)
    (path : RawText) : List Met :=
  match _opened : tree.resolve base path with
  | .error fault => [.hindered (.unread path fault)]
  | .ok (.file ..) => [.hindered (.unread path .notDirectory)]
  | .ok (.directory place) =>
    (tree.children place).flatMap fun (name, entry) =>
      let next := Path.join path name.bytes
      match tree.onward base followLinks entered next entry with
      | .file => [.file next]
      | .directory =>
        if prunes next then [] else walk followLinks prunes (next :: entered) next
      | .hindered hindrance => [.hindered hindrance]
      | .nothing => []
  termination_by pathLimit - path.length
  decreasing_by
    have short := tree.length_lt_of_resolve base path _ _opened
    have longer := join_name_length path name
    omega

end PatternLint.FileTree
