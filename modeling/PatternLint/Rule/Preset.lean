import PatternLint.Error
import PatternLint.Rule.Spec

namespace PatternLint.RuleSpec

def noHttp : RuleSpec :=
  { pattern := "http://", message := some "http:// URL found; use https:// instead" }

/-- Names are trimmed and compared without regard to the case of ASCII letters. -/
def preset (name : String) : Except Error (List RuleSpec) :=
  if (Text.trimChars name.toList).map Char.toLower = "nohttp".toList then .ok [noHttp]
  else .error (.unknownPreset name)

def ofArgument (argument : String) : Except Error RuleSpec :=
  match ofArgument? argument with
  | some spec => .ok spec
  | none => .error (.invalidRule argument .emptyPattern)

end PatternLint.RuleSpec
