import PatternLint.Error
import PatternLint.Regex.Basic
import PatternLint.Rule.Spec

namespace PatternLint

structure Rule where
  pattern : Regex
  message : String
  allow : List Regex

namespace Rule

/-- Every fault is reported under the rule's own pattern, also one of an allowing pattern. -/
def compilePart (spec : RuleSpec) (pattern : String) : Except Error Regex :=
  match Regex.compile pattern with
  | .ok regex => .ok regex
  | .error fault => .error (.invalidRule spec.pattern (.regex pattern fault))

def compile (spec : RuleSpec) : Except Error Rule := do
  let pattern ← compilePart spec spec.pattern
  let allow ← spec.allow.mapM (compilePart spec)
  return ⟨pattern, spec.report, allow⟩

def isAllowed (rule : Rule) (line : Array Char) (start : Nat) : Bool :=
  rule.allow.any fun regex => regex.matchesAt line start

/-- The successive matches of the pattern that are neither empty nor excused. -/
def findIn (rule : Rule) (line : Array Char) : List Regex.Stretch :=
  (rule.pattern.findAll line).filter fun found =>
    found.start != found.stop && !rule.isAllowed line found.start

end Rule

def Regex.Stretch.text (stretch : Regex.Stretch) (line : Array Char) : String :=
  String.ofList (line.extract stretch.start stretch.stop).toList

structure RuleSet where
  rules : List Rule

namespace RuleSet

def empty : RuleSet := ⟨[]⟩

def compile (specs : List RuleSpec) : Except Error RuleSet := do
  return ⟨← specs.mapM Rule.compile⟩

end RuleSet

end PatternLint
