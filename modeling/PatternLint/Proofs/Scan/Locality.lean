import PatternLint.Proofs.Scan.Text
import PatternLint.Proofs.Text.Line

namespace PatternLint

def Violation.onLine (violation : Violation) (number : Nat) : Violation :=
  { violation with line := number }

namespace Scan

variable (path : String) (rules : RuleSet)

/-- What is reported of lines that are numbered from `first` on. -/
def violationsFrom (first : Nat) (lines : List (List Char)) : List Violation :=
  (lines.zipIdx first).flatMap fun (line, number) => lineViolations path rules number line.toArray

theorem textViolations_eq_from (text : String) :
    textViolations path rules text =
      violationsFrom path rules 1 (Text.lines (Text.dropMark text.toList)) :=
  rfl

theorem violationsFrom_cons (first : Nat) (line : List Char) (rest : List (List Char)) :
    violationsFrom path rules first (line :: rest) =
      lineViolations path rules first line.toArray ++
        violationsFrom path rules (first + 1) rest := by
  simp only [violationsFrom, List.zipIdx_cons, List.flatMap_cons]

theorem violationsFrom_append (first : Nat) (before after : List (List Char)) :
    violationsFrom path rules first (before ++ after) =
      violationsFrom path rules first before ++
        violationsFrom path rules (first + before.length) after := by
  simp only [violationsFrom, List.zipIdx_append, List.flatMap_append]

theorem lineViolations_onLine (number other : Nat) (chars : Array Char) :
    (lineViolations path rules number chars).map (·.onLine other) =
      lineViolations path rules other chars := by
  simp only [lineViolations, ruleViolations, List.map_flatMap, List.map_map]
  rfl

theorem violationsFrom_onLine (first count : Nat) (lines : List (List Char)) :
    (violationsFrom path rules first lines).map (fun found => found.onLine (found.line + count)) =
      violationsFrom path rules (first + count) lines := by
  induction lines generalizing first with
  | nil => rfl
  | cons line rest ih =>
    have here : (lineViolations path rules first line.toArray).map
        (fun found => found.onLine (found.line + count)) =
          (lineViolations path rules first line.toArray).map (·.onLine (first + count)) := by
      apply List.map_congr_left
      intro found member
      rw [(lineViolations_place path rules first line.toArray found member).2]
    rw [violationsFrom_cons, List.map_append, here, lineViolations_onLine, ih, violationsFrom_cons,
      Nat.add_right_comm first 1 count]

theorem le_line_of_mem (first : Nat) (lines : List (List Char)) (found : Violation)
    (member : found ∈ violationsFrom path rules first lines) : first ≤ found.line := by
  obtain ⟨item, present, inside⟩ := List.mem_flatMap.mp member
  rw [(lineViolations_place path rules item.2 item.1.toArray found inside).2]
  exact List.le_snd_of_mem_zipIdx present

def onLine (number : Nat) (found : List Violation) : List Violation :=
  found.filter fun violation => violation.line = number

theorem onLine_lineViolations (number : Nat) (chars : Array Char) :
    onLine number (lineViolations path rules number chars) =
      lineViolations path rules number chars := by
  apply List.filter_eq_self.mpr
  intro found member
  exact decide_eq_true (lineViolations_place path rules number chars found member).2

theorem onLine_lineViolations_ne (number other : Nat) (chars : Array Char)
    (apart : other ≠ number) : onLine number (lineViolations path rules other chars) = [] := by
  apply List.filter_eq_nil_iff.mpr
  intro found member same
  have place := (lineViolations_place path rules other chars found member).2
  exact apart (place.symm.trans (of_decide_eq_true same))

theorem onLine_violationsFrom (first index : Nat) (lines : List (List Char)) :
    onLine (first + index) (violationsFrom path rules first lines) =
      (lines[index]?.map fun line =>
        lineViolations path rules (first + index) line.toArray).getD [] := by
  induction lines generalizing first index with
  | nil => rfl
  | cons line rest ih =>
    rw [violationsFrom_cons, onLine, List.filter_append]
    cases index with
    | zero =>
      have later : (violationsFrom path rules (first + 1) rest).filter
          (fun found => found.line = first) = [] := by
        apply List.filter_eq_nil_iff.mpr
        intro found member same
        have below := le_line_of_mem path rules (first + 1) rest found member
        have place : found.line = first := of_decide_eq_true same
        omega
      have here := onLine_lineViolations path rules first line.toArray
      rw [onLine] at here
      rw [Nat.add_zero, here, later, List.append_nil]
      rfl
    | succ index =>
      have here := onLine_lineViolations_ne path rules (first + (index + 1)) first line.toArray
        (by omega)
      have further := ih (first + 1) index
      rw [onLine] at here further
      rw [here, List.nil_append, show first + (index + 1) = first + 1 + index by omega, further]
      rfl

theorem onLine_textViolations (text : String) (index : Nat) :
    onLine (index + 1) (textViolations path rules text) =
      ((Text.lines (Text.dropMark text.toList))[index]?.map fun line =>
        lineViolations path rules (index + 1) line.toArray).getD [] := by
  have from1 := onLine_violationsFrom path rules 1 index (Text.lines (Text.dropMark text.toList))
  rwa [Nat.add_comm 1 index] at from1

/-- Lines that are the same have the same report, whatever stands on the other lines of their
texts. -/
theorem onLine_of_same_line (text other : String) (place index : Nat)
    (same : (Text.lines (Text.dropMark text.toList))[place]? =
      (Text.lines (Text.dropMark other.toList))[index]?) :
    (onLine (place + 1) (textViolations path rules text)).map (·.onLine (index + 1)) =
      onLine (index + 1) (textViolations path rules other) := by
  rw [onLine_textViolations, onLine_textViolations, same]
  cases (Text.lines (Text.dropMark other.toList))[index]? with
  | none => rfl
  | some line => exact lineViolations_onLine path rules (place + 1) (index + 1) line.toArray

theorem textViolations_append (before after : String)
    (ended : before.toList.getLast? = some '\n') (unmarked : after.toList.head? ≠ some '\ufeff') :
    textViolations path rules (before ++ after) =
      textViolations path rules before ++ (textViolations path rules after).map fun found =>
        found.onLine (found.line + before.toList.count '\n') := by
  have given : before.toList ≠ [] := by
    intro nothing
    rw [nothing] at ended
    cases ended
  have last : (Text.dropMark before.toList).getLast? = some '\n' :=
    Text.getLast?_dropMark before.toList ended
  have parts : Text.lines (Text.dropMark (before ++ after).toList) =
      Text.lines (Text.dropMark before.toList) ++ Text.lines (Text.dropMark after.toList) := by
    rw [String.toList_append, Text.dropMark_append _ _ given, Text.lines_append_of_feed _ _ last,
      Text.dropMark_of_head? _ unmarked]
  have counted : (Text.lines (Text.dropMark before.toList)).length = before.toList.count '\n' := by
    rw [Text.length_lines_of_feed _ last, Text.count_dropMark]
  calc
    textViolations path rules (before ++ after) =
        textViolations path rules before ++
          violationsFrom path rules (1 + before.toList.count '\n')
            (Text.lines (Text.dropMark after.toList)) := by
      rw [textViolations_eq_from, parts, violationsFrom_append, counted, textViolations_eq_from]
    _ = _ := by
      rw [← violationsFrom_onLine, textViolations_eq_from path rules after]

theorem scanned_line_by_line (before after : String)
    (ended : before.toList.getLast? = some '\n') (unmarked : after.toList.head? ≠ some '\ufeff') :
    textViolations path rules (before ++ after) =
        textViolations path rules before ++ ((textViolations path rules after).map fun found =>
          found.onLine (found.line + before.toList.count '\n')) ∧
      ∀ (text other : String) (place index : Nat),
        (Text.lines (Text.dropMark text.toList))[place]? =
            (Text.lines (Text.dropMark other.toList))[index]? →
          (onLine (place + 1) (textViolations path rules text)).map (·.onLine (index + 1)) =
            onLine (index + 1) (textViolations path rules other) :=
  ⟨textViolations_append path rules before after ended unmarked,
    onLine_of_same_line path rules⟩

/-- The mark of the first text is dropped, and its carriage return does not reach over the seam. -/
theorem scanned_beyond_return :
    ∃ rules, RuleSet.compile [⟨"x$", none, []⟩] = .ok rules ∧
      textViolations "a" rules ("\ufeffx\r\nx\r\n" ++ "x\r") =
        textViolations "a" rules "\ufeffx\r\nx\r\n" ++
          ((textViolations "a" rules "x\r").map fun found => found.onLine (found.line + 2)) ∧
      (onLine 1 (textViolations "a" rules "\ufeffx\r\nx\r\n")).map (·.onLine 2) =
        onLine 2 (textViolations "a" rules "y\nx\nz") := by
  obtain ⟨rules, compiled⟩ : ∃ rules, RuleSet.compile [⟨"x$", none, []⟩] = .ok rules := ⟨_, rfl⟩
  obtain ⟨joined, alone⟩ := scanned_line_by_line "a" rules "\ufeffx\r\nx\r\n" "x\r"
    (by decide) (by decide)
  exact ⟨rules, compiled, joined, alone _ "y\nx\nz" 0 1 (by decide)⟩

end Scan

end PatternLint
