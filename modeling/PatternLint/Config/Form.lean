namespace PatternLint.Config

def countLimit : Nat := 0x10000000000000000

structure Scalar where
  text? : Option String := none
  natural? : Option Nat := none
  flag? : Option Bool := none
  /-- Whether it stands for a value that is not given; `none` if that cannot be told. -/
  absent? : Option Bool := some false
  /-- Nothing at all is written, which also stands for an empty list or table. -/
  blank : Bool := false

/-- One level of a document over its parts. The key of a member is `none` if it is no text. -/
inductive Form (part : Type) where
  | scalar (scalar : Scalar)
  | list (items : List part)
  | table (members : List (Option String × part))

/-- A document: its parts, how to look at one, where to begin, and whether a list may stand for a
table whose keys are known. -/
structure Document where
  part : Type
  look : part → Option (Form part)
  top : part
  rowsAllowed : Bool

namespace Document

variable (document : Document)

def scalar? (part : document.part) : Option Scalar :=
  match document.look part with
  | some (.scalar scalar) => some scalar
  | _ => none

def text? (part : document.part) : Option String := do (← document.scalar? part).text?

def natural? (part : document.part) : Option Nat := do (← document.scalar? part).natural?

def flag? (part : document.part) : Option Bool := do (← document.scalar? part).flag?

def optional? {α : Type} (read : document.part → Option α) (part : document.part) :
    Option (Option α) :=
  match document.look part with
  | some (.scalar scalar) =>
    match scalar.absent? with
    | none => none
    | some true => some none
    | some false => (read part).map some
  | _ => (read part).map some

def list? {α : Type} (read : document.part → Option α) (part : document.part) :
    Option (List α) :=
  match document.look part with
  | some (.list items) => items.mapM read
  | some (.scalar scalar) => if scalar.blank then some [] else none
  | _ => none

def members? (part : document.part) : Option (List (String × document.part)) :=
  match document.look part with
  | some (.table members) => members.mapM fun member => member.1.map fun key => (key, member.2)
  | some (.scalar scalar) => if scalar.blank then some [] else none
  | some (.list _) => none
  | none => none

end Document

/-- The value of a member that may be missing and must not be given twice. -/
def member? {part α : Type} (members : List (String × part)) (key : String)
    (read : part → Option α) (missing : α) : Option α :=
  match members.filter fun member => member.1 = key with
  | [] => some missing
  | [member] => read member.2
  | _ => none

end PatternLint.Config
