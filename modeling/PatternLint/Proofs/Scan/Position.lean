import PatternLint.Proofs.Rule.Finding
import PatternLint.Proofs.Scan.Text
import PatternLint.Proofs.Text.Line

namespace PatternLint

theorem filter_eq_singleton {Item Key : Type} [Preorder Key] (key : Item → Key) (items : List Item)
    (sorted : items.Pairwise fun one other => key one < key other) (item : Item)
    (member : item ∈ items) (asked : Item → Bool)
    (same : ∀ other, asked other = true ↔ key other = key item) : items.filter asked = [item] := by
  induction items with
  | nil => cases member
  | cons head rest ih =>
    obtain ⟨before, later⟩ := List.pairwise_cons.mp sorted
    rcases List.mem_cons.mp member with rfl | further
    · have others : rest.filter asked = [] := by
        refine List.filter_eq_nil_iff.mpr fun other present found => ?_
        exact absurd (before other present) ((same other).mp found ▸ lt_irrefl _)
      rw [List.filter_cons_of_pos ((same item).mpr rfl), others]
    · have skipped : ¬ asked head = true := by
        intro found
        exact absurd (before item further) ((same head).mp found ▸ lt_irrefl _)
      rw [List.filter_cons_of_neg skipped]
      exact ih later further

theorem Violation.searchKey_eq_iff (one other : Violation) :
    one.searchKey = other.searchKey ↔
      one.line = other.line ∧ one.rule = other.rule ∧ one.column = other.column := by
  simp [searchKey]

namespace Scan

variable (path : String) (rules : RuleSet) (text : String)

def report (index : Nat) (line : List Char) (which : Nat) (rule : Rule) (found : Regex.Stretch) :
    Violation :=
  { path, line := index + 1, column := found.start + 1, matched := found.text line.toArray
    message := rule.message, rule := which }

theorem mem_textViolations_iff (violation : Violation) :
    violation ∈ textViolations path rules text ↔
      ∃ index line, (Text.lines (Text.dropMark text.toList))[index]? = some line ∧
        ∃ which rule, rules.rules[which]? = some rule ∧
          ∃ found ∈ rule.findIn line.toArray,
            violation = report path index line which rule found := by
  simp only [textViolations, lineViolations, ruleViolations, List.mem_flatMap, List.mem_map,
    Prod.exists, List.mk_mem_zipIdx_iff_le_and_getElem?_sub]
  constructor
  · rintro ⟨line, number, ⟨first, given⟩, rule, which, ⟨_, named⟩, found, present, same⟩
    obtain ⟨index, rfl⟩ := Nat.exists_eq_add_of_le' first
    exact ⟨index, line, given, which, rule, named, found, present, same.symm⟩
  · rintro ⟨index, line, given, which, rule, named, found, present, same⟩
    exact ⟨line, index + 1, ⟨Nat.le_add_left 1 index, given⟩, rule, which,
      ⟨Nat.zero_le which, named⟩, found, present, same.symm⟩

/-- A violation leads to its match in the text, and to the rule that found it. -/
structure PointsAt (text : List Char) (violation : Violation) : Prop where
  place : ∃ before after, text = before ++ violation.matched.toList ++ after ∧
    violation.line = before.count '\n' + 1 ∧
    violation.column = (Text.sinceFeed before).length + 1
  filled : violation.matched ≠ ""
  unbroken : '\n' ∉ violation.matched.toList
  scanned : violation.path = path
  told : ∃ rule, rules.rules[violation.rule]? = some rule ∧ violation.message = rule.message

/-- How what is reported of a text follows from what its rules find on its lines. -/
structure Positions : Prop where
  points : ∀ violation ∈ textViolations path rules text,
    PointsAt path rules (Text.dropMark text.toList) violation
  once : ∀ index line, (Text.lines (Text.dropMark text.toList))[index]? = some line →
    ∀ which rule, rules.rules[which]? = some rule → ∀ found ∈ rule.findIn line.toArray,
      ((textViolations path rules text).filter fun violation =>
        violation.line = index + 1 ∧ violation.rule = which ∧ violation.column = found.start + 1) =
          [report path index line which rule found]
  ordered : (textViolations path rules text).Pairwise fun one other =>
    one.searchKey < other.searchKey

variable {path rules text}

theorem pointsAt_report (chars : List Char) (index : Nat) (line : List Char)
    (given : (Text.lines chars)[index]? = some line) (which : Nat) (rule : Rule)
    (named : rules.rules[which]? = some rule) (found : Regex.Stretch)
    (member : found ∈ rule.findIn line.toArray) :
    PointsAt path rules chars (report path index line which rule found) := by
  obtain ⟨free, before, after, parts, counted, begins⟩ := Text.place_of_line chars index line given
  obtain ⟨filled, inside⟩ := rule.findIn_bounds line.toArray found member
  have inside : found.stop ≤ line.length := inside
  have reached : line.take found.start ++ (found.text line.toArray).toList = line.take found.stop :=
    found.take_append_text line.toArray filled.le
  have ahead : '\n' ∉ line.take found.start := fun feed => free (List.mem_of_mem_take feed)
  refine ⟨⟨before ++ line.take found.start, line.drop found.stop ++ after, ?_, ?_, ?_⟩, ?_, ?_, rfl,
    rule, named, rfl⟩
  · calc
      chars = before ++ (line.take found.stop ++ line.drop found.stop) ++ after := by
        rw [List.take_append_drop, parts]
      _ = before ++ line.take found.start ++ (found.text line.toArray).toList ++
          (line.drop found.stop ++ after) := by
        rw [← reached]
        simp only [List.append_assoc]
  · show index + 1 = (before ++ line.take found.start).count '\n' + 1
    rw [List.count_append, counted, List.count_eq_zero_of_not_mem ahead, Nat.add_zero]
  · show found.start + 1 = (Text.sinceFeed (before ++ line.take found.start)).length + 1
    rw [Text.sinceFeed_append before _ begins ahead, List.length_take_of_le (by omega)]
  · show found.text line.toArray ≠ ""
    intro empty
    have lengths := congrArg List.length reached
    rw [empty, List.length_append, List.length_take_of_le (by omega),
      List.length_take_of_le inside] at lengths
    simp at lengths
    omega
  · intro feed
    have within : '\n' ∈ line.take found.stop := reached ▸ List.mem_append_right _ feed
    exact free (List.mem_of_mem_take within)

theorem textViolations_positions (path : String) (rules : RuleSet) (text : String) :
    Positions path rules text where
  points violation member := by
    obtain ⟨index, line, given, which, rule, named, found, present, rfl⟩ :=
      (mem_textViolations_iff path rules text violation).mp member
    exact pointsAt_report _ index line given which rule named found present
  once index line given which rule named found present := by
    have member := (mem_textViolations_iff path rules text _).mpr
      ⟨index, line, given, which, rule, named, found, present, rfl⟩
    refine filter_eq_singleton Violation.searchKey _ (textViolations_pairwise path rules text) _
      member _ fun other => ?_
    rw [Violation.searchKey_eq_iff, decide_eq_true_eq]
    rfl
  ordered := textViolations_pairwise path rules text

end Scan

end PatternLint
