import PatternLint.Text.Blank

namespace PatternLint

/-- A pattern that must not appear, the message to report, and patterns that excuse a match that
begins where they match too. -/
structure RuleSpec where
  pattern : String
  message : Option String := none
  allow : List String := []
deriving BEq, DecidableEq, Repr

namespace RuleSpec

/-- The parts before and after the first `=` that is not escaped; `escaped` tells whether an odd
number of backslashes stands right before. -/
def splitAtEquals : (escaped : Bool) → List Char → List Char × Option (List Char)
  | _, [] => ([], none)
  | escaped, char :: rest =>
    if char = '=' ∧ escaped = false then ([], some rest)
    else
      let (before, after) := splitAtEquals (char = '\\' && !escaped) rest
      (char :: before, after)

def unescape : List Char → List Char
  | [] => []
  | '\\' :: '=' :: rest => '=' :: unescape rest
  | char :: rest => char :: unescape rest

/-- Reads `pattern=message`; only an empty pattern is refused. -/
def ofArgument? (argument : String) : Option RuleSpec :=
  let (before, after) := splitAtEquals false argument.toList
  match unescape before with
  | [] => none
  | pattern =>
    let message := Text.trimChars (after.getD [])
    some ⟨String.ofList pattern,
      if message.isEmpty then none else some (String.ofList message), []⟩

def defaultMessage (pattern : String) : String := "disallowed pattern: " ++ pattern

def report (spec : RuleSpec) : String := spec.message.getD (defaultMessage spec.pattern)

end RuleSpec

end PatternLint
