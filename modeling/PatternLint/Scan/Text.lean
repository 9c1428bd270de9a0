import PatternLint.Rule.Basic
import PatternLint.Scan.Violation
import PatternLint.Text.Line

namespace PatternLint.Scan

def ruleViolations (path : String) (line : Nat) (chars : Array Char) (index : Nat) (rule : Rule) :
    List Violation :=
  (rule.findIn chars).map fun found =>
    { path, line, column := found.start + 1, matched := found.text chars, message := rule.message
      rule := index }

def lineViolations (path : String) (rules : RuleSet) (line : Nat) (chars : Array Char) :
    List Violation :=
  (rules.rules.zipIdx).flatMap fun (rule, index) => ruleViolations path line chars index rule

def textViolations (path : String) (rules : RuleSet) (text : String) : List Violation :=
  ((Text.lines (Text.dropMark text.toList)).zipIdx 1).flatMap fun (line, number) =>
    lineViolations path rules number line.toArray

end PatternLint.Scan
