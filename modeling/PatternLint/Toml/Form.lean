import PatternLint.Config.Form
import PatternLint.Toml.Reader

namespace PatternLint.Toml

def count? (value : Int) : Option Nat :=
  if 0 ≤ value ∧ value < Config.countLimit then some value.toNat else none

def tableForm (members : Members) : Config.Form Value :=
  .table (members.map fun member => (some member.1, member.2))

def Value.form : Value → Config.Form Value
  | .text value => .scalar { text? := some value }
  | .integer value => .scalar { natural? := count? value }
  | .flag value => .scalar { flag? := some value }
  | .other => .scalar {}
  | .list items => .list items
  | .table _ members => tableForm members
  | .tables earlier last => .list ((earlier ++ [last]).map (.table .explicit))

/-- A list may stand for a rule. -/
def document (members : Members) : Config.Document where
  part := Value
  look := fun value => some value.form
  top := .table .explicit members
  rowsAllowed := true

end PatternLint.Toml
