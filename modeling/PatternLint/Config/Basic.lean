import PatternLint.Config.Form
import PatternLint.Rule.Spec

namespace PatternLint

structure Config where
  output : Option String := none
  includes : List String := []
  excludes : List String := []
  defaultExcludes : Option Bool := none
  preset : Option String := none
  threads : Option Nat := none
  rules : List RuleSpec := []
deriving BEq, DecidableEq, Repr

namespace Config

def keys : List String :=
  ["output", "include", "exclude", "default_excludes", "preset", "threads", "rules"]

variable (document : Document)

/-- Only the pattern of a rule has to be given. -/
def ruleOfMembers? (members : List (String × document.part)) : Option RuleSpec := do
  let pattern ← member? members "pattern" (fun part => (document.text? part).map some) none
  let message ← member? members "message" (document.optional? document.text?) none
  let allow ← member? members "allow" (document.list? document.text?) []
  return ⟨← pattern, message, allow⟩

/-- A rule as a row: pattern, message, allowing patterns; what follows is passed over. -/
def ruleOfRow? (items : List document.part) : Option RuleSpec := do
  let pattern ← document.text? (← items[0]?)
  let message ← (items[1]?).elim (some none) (document.optional? document.text?)
  let allow ← (items[2]?).elim (some []) (document.list? document.text?)
  return ⟨pattern, message, allow⟩

def rule? (part : document.part) : Option RuleSpec :=
  match document.look part with
  | some (.list items) => if document.rowsAllowed then ruleOfRow? document items else none
  | _ => do ruleOfMembers? document (← document.members? part)

def ofMembers? (members : List (String × document.part)) : Option Config :=
  if members.all fun member => keys.contains member.1 then do
    return {
      output := ← member? members "output" (document.optional? document.text?) none
      includes := ← member? members "include" (document.list? document.text?) []
      excludes := ← member? members "exclude" (document.list? document.text?) []
      defaultExcludes :=
        ← member? members "default_excludes" (document.optional? document.flag?) none
      preset := ← member? members "preset" (document.optional? document.text?) none
      threads := ← member? members "threads" (document.optional? document.natural?) none
      rules := ← member? members "rules" (document.list? (rule? document)) [] }
  else none

def ofDocument? : Option Config := do
  ofMembers? document (← document.members? document.top)

end Config

end PatternLint
