import PatternLint.Proofs.Scan.Locality

namespace PatternLint

namespace Text

def withReturns (text : List Char) : List Char :=
  text.flatMap fun char => if char = '\n' then ['\r', '\n'] else [char]

theorem withReturns_of_notMem (text : List Char) (free : '\n' ∉ text) :
    withReturns text = text := by
  have plain : ∀ char ∈ text, (if char = '\n' then ['\r', '\n'] else [char]) = [char] := by
    intro char member
    have other : char ≠ '\n' := ne_of_mem_of_not_mem member free
    exact if_neg other
  rw [withReturns, List.flatMap_congr plain, List.flatMap_singleton']

theorem withReturns_append (line rest : List Char) (free : '\n' ∉ line) :
    withReturns (line ++ '\n' :: rest) = (line ++ ['\r']) ++ '\n' :: withReturns rest := by
  have first := withReturns_of_notMem line free
  rw [withReturns] at first
  simp only [withReturns, List.flatMap_append, List.flatMap_cons, if_true, first,
    List.append_assoc, List.cons_append, List.nil_append]

theorem dropReturn_concat (line : List Char) : dropReturn (line ++ ['\r']) = line := by
  rw [dropReturn, List.getLast?_concat, if_pos rfl, List.dropLast_concat]

theorem dropReturn_of_getLast? (line : List Char) (last : line.getLast? ≠ some '\r') :
    dropReturn line = line :=
  if_neg last

theorem lines_withReturns (text : List Char) (free : ¬ ['\r', '\n'] <:+: text) :
    lines (withReturns text) = lines text := by
  induction text using line_induction with
  | last text feedless => rw [withReturns_of_notMem text feedless]
  | ended line rest feedless ih =>
    have further : ¬ ['\r', '\n'] <:+: rest := by
      intro within
      exact free (within.trans (List.suffix_append_of_suffix (List.suffix_cons '\n' rest)).isInfix)
    have bare : line.getLast? ≠ some '\r' := by
      intro last
      obtain ⟨start, rfl⟩ := List.getLast?_eq_some_iff.mp last
      exact free ⟨start, rest, by simp⟩
    have apart : '\n' ∉ line ++ ['\r'] := by
      simpa using feedless
    rw [withReturns_append line rest feedless, lines_append _ _ apart, dropReturn_concat,
      ih further, lines_append line rest feedless, dropReturn_of_getLast? line bare]

theorem dropMark_withReturns (text : List Char) :
    dropMark (withReturns text) = withReturns (dropMark text) := by
  cases text with
  | nil => rfl
  | cons char rest =>
    by_cases feed : char = '\n'
    · subst feed
      rfl
    · by_cases mark : char = '\ufeff'
      · subst mark
        rfl
      · have whole : withReturns (char :: rest) = char :: withReturns rest := by
          simp only [withReturns, List.flatMap_cons, if_neg feed, List.singleton_append]
        rw [whole, dropMark, if_neg mark, dropMark, if_neg mark, whole]

theorem dropMark_suffix (text : List Char) : dropMark text <:+ text := by
  cases text with
  | nil => exact List.suffix_refl []
  | cons char rest =>
    rw [dropMark]
    split
    · exact List.suffix_cons char rest
    · exact List.suffix_refl _

end Text

namespace Scan

variable (path : String) (rules : RuleSet)

theorem lineViolations_empty (number : Nat) : lineViolations path rules number #[] = [] := by
  apply List.flatMap_eq_nil_iff.mpr
  intro item _
  apply List.map_eq_nil_iff.mpr
  apply List.eq_nil_iff_forall_not_mem.mpr
  intro found member
  obtain ⟨filled, inside⟩ := item.1.findIn_bounds #[] found member
  exact absurd (Nat.lt_of_lt_of_le filled inside) (Nat.not_lt_zero _)

theorem violationsFrom_feed (first : Nat) (text : List Char)
    (bare : text.getLast? ≠ some '\r') :
    violationsFrom path rules first (Text.lines (text ++ ['\n'])) =
      violationsFrom path rules first (Text.lines text) := by
  induction text using Text.line_induction generalizing first with
  | last text free =>
    rw [Text.lines_append text [] free, Text.dropReturn_of_getLast? text bare,
      Text.lines_of_notMem text free]
    cases text with
    | nil =>
      rw [violationsFrom_cons, lineViolations_empty]
      rfl
    | cons char rest => rfl
  | ended line rest free ih =>
    have further : rest.getLast? ≠ some '\r' := by
      intro last
      have given : rest ≠ [] := fun nothing => by simp [nothing] at last
      rw [Text.getLast?_behind_feed line rest given] at bare
      exact bare last
    rw [List.append_assoc, List.cons_append, Text.lines_append line _ free,
      Text.lines_append line _ free, violationsFrom_cons, violationsFrom_cons, ih _ further]

/-- What the report of a text does not depend on. -/
structure Conventions (text : String) : Prop where
  mark : text.toList.head? ≠ some '\ufeff' →
    textViolations path rules ("\ufeff" ++ text) = textViolations path rules text
  returns : ¬ ['\r', '\n'] <:+: text.toList →
    textViolations path rules (String.ofList (Text.withReturns text.toList)) =
      textViolations path rules text
  feed : text.toList.getLast? ≠ some '\r' →
    textViolations path rules (text ++ "\n") = textViolations path rules text

theorem textViolations_mark (text : String) (unmarked : text.toList.head? ≠ some '\ufeff') :
    textViolations path rules ("\ufeff" ++ text) = textViolations path rules text := by
  have dropped : Text.dropMark ("\ufeff" ++ text).toList = text.toList := by
    rw [String.toList_append]
    rfl
  rw [textViolations_eq_from, textViolations_eq_from, dropped, Text.dropMark_of_head? _ unmarked]

theorem textViolations_withReturns (text : String) (free : ¬ ['\r', '\n'] <:+: text.toList) :
    textViolations path rules (String.ofList (Text.withReturns text.toList)) =
      textViolations path rules text := by
  have inside : ¬ ['\r', '\n'] <:+: Text.dropMark text.toList := by
    intro within
    exact free (within.trans (Text.dropMark_suffix text.toList).isInfix)
  rw [textViolations_eq_from, textViolations_eq_from, String.toList_ofList,
    Text.dropMark_withReturns, Text.lines_withReturns _ inside]

theorem textViolations_feed (text : String) (bare : text.toList.getLast? ≠ some '\r') :
    textViolations path rules (text ++ "\n") = textViolations path rules text := by
  by_cases nothing : text.toList = []
  · have empty : text = "" := String.toList_eq_nil_iff.mp nothing
    subst empty
    exact violationsFrom_feed path rules 1 [] bare
  · have last : (Text.dropMark text.toList).getLast? ≠ some '\r' := by
      intro ends
      obtain ⟨before, parts⟩ := Text.dropMark_suffix text.toList
      have given : Text.dropMark text.toList ≠ [] := fun none => by simp [none] at ends
      rw [← parts, List.getLast?_append_of_ne_nil before given] at bare
      exact bare ends
    rw [textViolations_eq_from, textViolations_eq_from, String.toList_append,
      Text.dropMark_append _ _ nothing]
    exact violationsFrom_feed path rules 1 _ last

theorem conventions_do_not_count (text : String) : Conventions path rules text where
  mark := textViolations_mark path rules text
  returns := textViolations_withReturns path rules text
  feed := textViolations_feed path rules text

/-- The second line is empty, and the last one is not ended. -/
theorem conventions_of_three_lines :
    ∃ rules, RuleSet.compile [⟨"x$", none, []⟩] = .ok rules ∧
      textViolations "a" rules "\ufeffx\n\nx" = textViolations "a" rules "x\n\nx" ∧
      textViolations "a" rules "x\r\n\r\nx" = textViolations "a" rules "x\n\nx" ∧
      textViolations "a" rules "x\n\nx\n" = textViolations "a" rules "x\n\nx" := by
  obtain ⟨rules, compiled⟩ : ∃ rules, RuleSet.compile [⟨"x$", none, []⟩] = .ok rules := ⟨_, rfl⟩
  have same := conventions_do_not_count "a" rules "x\n\nx"
  exact ⟨rules, compiled, same.mark (by decide), same.returns (by decide), same.feed (by decide)⟩

end Scan

end PatternLint
