import Mathlib.Data.List.Range
import Mathlib.Data.Prod.Lex
import PatternLint.Proofs.Regex.Successive
import PatternLint.Scan.Text

namespace PatternLint

namespace Violation

def searchKey (violation : Violation) : Nat ×ₗ Nat ×ₗ Nat :=
  toLex (violation.line, toLex (violation.rule, violation.column))

theorem searchKey_lt_of_line (one other : Violation) (lines : one.line < other.line) :
    one.searchKey < other.searchKey :=
  Prod.Lex.toLex_lt_toLex.mpr (.inl lines)

theorem searchKey_lt_of_rule (one other : Violation) (lines : one.line = other.line)
    (rules : one.rule < other.rule) : one.searchKey < other.searchKey := by
  apply Prod.Lex.toLex_lt_toLex.mpr
  refine .inr ⟨lines, ?_⟩
  exact Prod.Lex.toLex_lt_toLex.mpr (.inl rules)

theorem searchKey_lt_of_column (one other : Violation) (lines : one.line = other.line)
    (rules : one.rule = other.rule) (columns : one.column < other.column) :
    one.searchKey < other.searchKey := by
  apply Prod.Lex.toLex_lt_toLex.mpr
  refine .inr ⟨lines, ?_⟩
  exact Prod.Lex.toLex_lt_toLex.mpr (.inr ⟨rules, columns⟩)

end Violation

namespace Scan

theorem zipIdx_pairwise_lt {Item : Type} (items : List Item) (first : Nat) :
    (items.zipIdx first).Pairwise fun one other => one.2 < other.2 := by
  apply List.pairwise_map.mp
  rw [List.zipIdx_map_snd]
  exact List.pairwise_lt_range'

theorem ruleViolations_place (path : String) (line : Nat) (chars : Array Char) (index : Nat)
    (rule : Rule) (violation : Violation)
    (member : violation ∈ ruleViolations path line chars index rule) :
    violation.path = path ∧ violation.line = line ∧ violation.rule = index := by
  obtain ⟨found, _, same⟩ := List.mem_map.mp member
  subst same
  exact ⟨rfl, rfl, rfl⟩

theorem ruleViolations_pairwise (path : String) (line : Nat) (chars : Array Char) (index : Nat)
    (rule : Rule) :
    (ruleViolations path line chars index rule).Pairwise fun one other =>
      one.searchKey < other.searchKey := by
  rw [ruleViolations, List.pairwise_map]
  refine (rule.findIn_pairwise chars).imp ?_
  intro one other earlier
  apply Violation.searchKey_lt_of_column
  · rfl
  · rfl
  · exact Nat.succ_lt_succ earlier

theorem lineViolations_place (path : String) (rules : RuleSet) (line : Nat) (chars : Array Char)
    (violation : Violation) (member : violation ∈ lineViolations path rules line chars) :
    violation.path = path ∧ violation.line = line := by
  obtain ⟨item, _, found⟩ := List.mem_flatMap.mp member
  have place := ruleViolations_place path line chars item.2 item.1 violation found
  exact ⟨place.1, place.2.1⟩

theorem lineViolations_pairwise (path : String) (rules : RuleSet) (line : Nat)
    (chars : Array Char) :
    (lineViolations path rules line chars).Pairwise fun one other =>
      one.searchKey < other.searchKey := by
  rw [lineViolations, List.pairwise_flatMap]
  constructor
  · intro item _
    exact ruleViolations_pairwise path line chars item.2 item.1
  · refine (zipIdx_pairwise_lt rules.rules 0).imp ?_
    intro item next earlier one first other second
    have place := ruleViolations_place path line chars item.2 item.1 one first
    have behind := ruleViolations_place path line chars next.2 next.1 other second
    apply Violation.searchKey_lt_of_rule
    · rw [place.2.1, behind.2.1]
    · rw [place.2.2, behind.2.2]
      exact earlier

theorem textViolations_path (path : String) (rules : RuleSet) (text : String)
    (violation : Violation) (member : violation ∈ textViolations path rules text) :
    violation.path = path := by
  obtain ⟨item, _, found⟩ := List.mem_flatMap.mp member
  exact (lineViolations_place path rules item.2 item.1.toArray violation found).1

theorem textViolations_pairwise (path : String) (rules : RuleSet) (text : String) :
    (textViolations path rules text).Pairwise fun one other =>
      one.searchKey < other.searchKey := by
  rw [textViolations, List.pairwise_flatMap]
  constructor
  · intro item _
    exact lineViolations_pairwise path rules item.2 item.1.toArray
  · refine (zipIdx_pairwise_lt _ 1).imp ?_
    intro item next earlier one first other second
    have place := lineViolations_place path rules item.2 item.1.toArray one first
    have behind := lineViolations_place path rules next.2 next.1.toArray other second
    apply Violation.searchKey_lt_of_line
    rw [place.2, behind.2]
    exact earlier

end Scan

end PatternLint
