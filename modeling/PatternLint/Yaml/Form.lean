import PatternLint.Config.Form
import PatternLint.Yaml.Document

namespace PatternLint.Yaml

def nullTag : String := "tag:yaml.org,2002:null"

def flagTag : String := "tag:yaml.org,2002:bool"

def numberTag : String := "tag:yaml.org,2002:int"

def isNull (text : String) : Bool := ["null", "Null", "NULL", "~"].contains text

def flag? (text : String) : Option Bool :=
  if ["true", "True", "TRUE"].contains text then some true
  else if ["false", "False", "FALSE"].contains text then some false
  else none

def count? (base : Nat) (digits : List Char) : Option Nat :=
  (Text.natural? base digits).filter (· < Config.countLimit)

def natural? (text : List Char) : Option Nat :=
  let digits := match text with
    | '+' :: rest => rest
    | _ => text
  match digits with
  | '0' :: 'x' :: rest => count? 16 rest
  | '0' :: 'o' :: rest => count? 8 rest
  | '0' :: 'b' :: rest => count? 2 rest
  | '0' :: _ :: _ => none
  | _ => count? 10 digits

/-- A block that keeps its lines counts as a scalar without quotes if its tag says so. -/
def isBare (style : Style) (tag : Option String) (expected : String) : Bool :=
  style = .plain || (style = .literal && tag = some expected)

/-- Whether a scalar says that a value is not given; under the tag for that it must not say more. -/
def absent? (tag : Option String) (style : Style) (text : String) : Option Bool :=
  if style ≠ .plain then some false
  else if tag = some nullTag then if isNull text then some true else none
  else if tag.isSome then some false
  else some (text = "" || isNull text)

def scalar (tag : Option String) (style : Style) (text : String) : Config.Scalar where
  text? := some text
  natural? := if isBare style tag numberTag then natural? text.toList else none
  flag? := if isBare style tag flagTag then flag? text else none
  absent? := absent? tag style text
  blank := style = .plain && text = ""

namespace Document

def key? (document : Document) (key : Node) : Option String :=
  match document.resolve key with
  | some (.scalar _ _ text) => some text
  | _ => none

def form? (document : Document) (node : Node) : Option (Config.Form Node) :=
  match document.resolve node with
  | some (.scalar tag style text) => some (.scalar (scalar tag style text))
  | some (.list items) => some (.list items)
  | some (.table members) =>
    some (.table (members.map fun member => (document.key? member.1, member.2)))
  | _ => none

end Document

def document (document : Document) : Config.Document where
  part := Node
  look := document.form?
  top := document.root
  rowsAllowed := false

end PatternLint.Yaml
