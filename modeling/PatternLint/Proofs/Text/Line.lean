import Mathlib.Data.List.DropRight
import PatternLint.Text.Line

namespace PatternLint.Text

section Pieces

variable {α : Type} [DecidableEq α]

theorem pieces_eq_splitOn (mark : α) (text : List α) :
    pieces mark text = text.splitOn mark := by
  unfold pieces
  induction text with
  | nil => rfl
  | cons char rest ih =>
    rw [List.foldr_cons, ih, List.splitOn_cons_eq_if_modifyHead]
    cases parts : rest.splitOn mark with
    | nil => exact absurd parts (List.splitOn_ne_nil mark rest)
    | cons piece after =>
      by_cases same : char = mark <;> simp [addToPieces, same]

theorem pieces_append_mark (mark : α) (before after : List α) :
    pieces mark (before ++ mark :: after) = pieces mark before ++ pieces mark after := by
  simp only [pieces_eq_splitOn, List.splitOn_append_cons_self]

theorem pieces_of_notMem (mark : α) (text : List α) (free : mark ∉ text) :
    pieces mark text = [text] := by
  rw [pieces_eq_splitOn, List.splitOn_eq_singleton free]

theorem pieces_ne_nil (mark : α) (text : List α) : pieces mark text ≠ [] := by
  rw [pieces_eq_splitOn]
  exact List.splitOn_ne_nil mark text

theorem pieces_eq_cons_iff (mark : α) (text first : List α) (rest : List (List α)) :
    pieces mark text = first :: rest ↔
      mark ∉ first ∧ (text = first ∧ rest = [] ∨
        ∃ later, text = first ++ mark :: later ∧ pieces mark later = rest) := by
  constructor
  · intro parts
    by_cases more : mark ∈ text
    · obtain ⟨before, later, rfl, free⟩ := List.eq_append_cons_of_mem more
      rw [pieces_append_mark, pieces_of_notMem mark before free] at parts
      obtain ⟨rfl, same⟩ := List.cons.inj parts
      exact ⟨free, .inr ⟨later, rfl, same⟩⟩
    · rw [pieces_of_notMem mark text more] at parts
      obtain ⟨rfl, same⟩ := List.cons.inj parts
      exact ⟨more, .inl ⟨rfl, same.symm⟩⟩
  · rintro ⟨free, ⟨rfl, rfl⟩ | ⟨later, rfl, rfl⟩⟩
    · exact pieces_of_notMem mark text free
    · rw [pieces_append_mark, pieces_of_notMem mark first free]
      rfl

theorem pieces_eq_append_iff (mark : α) (text : List α) (first second : List (List α))
    (given : first ≠ []) (more : second ≠ []) :
    pieces mark text = first ++ second ↔
      ∃ before after, text = before ++ mark :: after ∧ pieces mark before = first ∧
        pieces mark after = second := by
  constructor
  · intro parts
    induction first generalizing text with
    | nil => exact absurd rfl given
    | cons piece rest ih =>
      obtain ⟨free, ⟨_, none⟩ | ⟨later, rfl, same⟩⟩ := (pieces_eq_cons_iff mark text _ _).mp parts
      · exact absurd (List.append_eq_nil_iff.mp none).2 more
      · by_cases single : rest = []
        · subst single
          exact ⟨piece, later, rfl, pieces_of_notMem mark piece free, same⟩
        · obtain ⟨before, after, rfl, head, tail⟩ := ih later single same
          refine ⟨piece ++ mark :: before, after, by simp, ?_, tail⟩
          rw [pieces_append_mark, pieces_of_notMem mark piece free, head]
          rfl
  · rintro ⟨before, after, rfl, rfl, rfl⟩
    exact pieces_append_mark mark before after

theorem notMem_of_mem_pieces (mark : α) (text piece : List α)
    (member : piece ∈ pieces mark text) : mark ∉ piece := by
  generalize parts : pieces mark text = all at member
  induction all generalizing text with
  | nil => cases member
  | cons first rest ih =>
    obtain ⟨free, later⟩ := (pieces_eq_cons_iff mark text first rest).mp parts
    rcases List.mem_cons.mp member with rfl | member
    · exact free
    · rcases later with ⟨_, rfl⟩ | ⟨later, _, same⟩
      · cases member
      · exact ih later same member

theorem pieces_intercalate (mark : α) (parts : List (List α)) (given : parts ≠ [])
    (free : ∀ part ∈ parts, mark ∉ part) : pieces mark ([mark].intercalate parts) = parts := by
  rw [pieces_eq_splitOn, List.splitOn_intercalate mark free given]

theorem length_pieces (mark : α) (text : List α) :
    (pieces mark text).length = text.count mark + 1 := by
  induction text with
  | nil => rfl
  | cons char rest ih =>
    cases parts : pieces mark rest with
    | nil => exact absurd parts (pieces_ne_nil mark rest)
    | cons piece after =>
      have whole : pieces mark (char :: rest) = addToPieces mark char (piece :: after) :=
        congrArg (addToPieces mark char) parts
      rw [parts] at ih
      rw [whole, addToPieces, List.count_cons]
      by_cases same : char = mark
      · simpa [same] using ih
      · simpa [same] using ih

/-- Parts that are each ended by a mark are the pieces of the whole, if no part contains the mark.
-/
theorem pieces_ended_iff (mark : α) (parts : List (List α)) :
    pieces mark (parts.flatMap (· ++ [mark])) = parts ++ [[]] ↔ ∀ part ∈ parts, mark ∉ part := by
  constructor
  · intro cut part member
    apply notMem_of_mem_pieces mark (parts.flatMap (· ++ [mark]))
    rw [cut]
    exact List.mem_append_left _ member
  · intro free
    induction parts with
    | nil => rfl
    | cons part rest ih =>
      obtain ⟨here, later⟩ := List.forall_mem_cons.mp free
      rw [List.flatMap_cons, List.append_assoc, List.singleton_append, pieces_append_mark,
        pieces_of_notMem mark part here, ih later]
      rfl

end Pieces

/-- A text is free of line feeds, or it is a line, a line feed and a text. -/
theorem line_induction {holds : List Char → Prop} (last : ∀ text, '\n' ∉ text → holds text)
    (ended : ∀ line rest, '\n' ∉ line → holds rest → holds (line ++ '\n' :: rest))
    (text : List Char) : holds text := by
  by_cases more : '\n' ∈ text
  · obtain ⟨line, rest, parts, free⟩ := List.eq_append_cons_of_mem more
    have shorter : rest.length < text.length := by
      simp only [parts, List.length_append, List.length_cons]
      omega
    rw [parts]
    exact ended line rest free (line_induction last ended rest)
  · exact last text more
termination_by text.length

theorem lines_of_notMem (text : List Char) (free : '\n' ∉ text) :
    lines text = if text.isEmpty then [] else [text] := by
  simp [lines, pieces_of_notMem '\n' text free]

theorem lines_append (line rest : List Char) (free : '\n' ∉ line) :
    lines (line ++ '\n' :: rest) = dropReturn line :: lines rest := by
  have given := pieces_ne_nil '\n' rest
  simp only [lines, pieces_append_mark, pieces_of_notMem '\n' line free, List.singleton_append]
  rw [List.dropLast_cons_of_ne_nil given, List.map_cons, List.cons_append]
  simp only [List.getLastD_eq_getLast?, List.getLast?_cons, List.getLast?_eq_some_getLast given,
    Option.getD_some]

theorem getLast?_behind_feed (line rest : List Char) (given : rest ≠ []) :
    (line ++ '\n' :: rest).getLast? = rest.getLast? := by
  rw [List.getLast?_append_cons, List.getLast?_cons_of_ne_nil given]

/-- A text that ends in a line feed ends in nothing that the next text goes on with. -/
theorem lines_append_of_feed (before after : List Char) (ended : before.getLast? = some '\n') :
    lines (before ++ after) = lines before ++ lines after := by
  induction before using line_induction with
  | last before free => exact absurd (List.mem_of_getLast? ended) free
  | ended line rest free ih =>
    have first := lines_append line rest free
    rw [List.append_assoc, List.cons_append, lines_append line (rest ++ after) free, first]
    by_cases none : rest = []
    · subst none
      rfl
    · rw [getLast?_behind_feed line rest none] at ended
      rw [ih ended, List.cons_append]

theorem length_lines_of_feed (text : List Char) (ended : text.getLast? = some '\n') :
    (lines text).length = text.count '\n' := by
  induction text using line_induction with
  | last text free => exact absurd (List.mem_of_getLast? ended) free
  | ended line rest free ih =>
    rw [lines_append line rest free, List.length_cons, List.count_append, List.count_cons_self,
      List.count_eq_zero_of_not_mem free, Nat.zero_add]
    by_cases none : rest = []
    · subst none
      rfl
    · rw [getLast?_behind_feed line rest none] at ended
      rw [ih ended]

theorem dropMark_of_head? (text : List Char) (unmarked : text.head? ≠ some '\ufeff') :
    dropMark text = text := by
  cases text with
  | nil => rfl
  | cons char rest =>
    have other : char ≠ '\ufeff' := fun same => unmarked (congrArg some same)
    rw [dropMark, if_neg other]

theorem dropMark_append (before after : List Char) (given : before ≠ []) :
    dropMark (before ++ after) = dropMark before ++ after := by
  cases before with
  | nil => exact absurd rfl given
  | cons char rest =>
    rw [List.cons_append, dropMark, dropMark]
    split
    · rfl
    · rfl

theorem count_dropMark (text : List Char) : (dropMark text).count '\n' = text.count '\n' := by
  cases text with
  | nil => rfl
  | cons char rest =>
    rw [dropMark]
    split
    next mark =>
      subst mark
      exact (List.count_cons_of_ne (by decide)).symm
    next => rfl

theorem getLast?_dropMark (text : List Char) (ended : text.getLast? = some '\n') :
    (dropMark text).getLast? = some '\n' := by
  cases text with
  | nil => cases ended
  | cons char rest =>
    rw [dropMark]
    split
    next mark =>
      subst mark
      cases rest with
      | nil => exact absurd ended (by decide)
      | cons next further => exact ended
    next => exact ended

theorem dropReturn_prefix (line : List Char) : dropReturn line <+: line := by
  unfold dropReturn
  split
  · exact List.dropLast_prefix line
  · exact List.prefix_refl line

def sinceFeed (text : List Char) : List Char := text.rtakeWhile (· ≠ '\n')

theorem sinceFeed_append (before line : List Char) (begins : sinceFeed before = [])
    (free : '\n' ∉ line) : sinceFeed (before ++ line) = line := by
  have whole : ∀ char ∈ line.reverse, decide (char ≠ '\n') = true := by
    intro char member
    exact decide_eq_true fun feed => free (feed ▸ List.mem_reverse.mp member)
  have nothing : before.reverse.takeWhile (· ≠ '\n') = [] := List.reverse_eq_nil_iff.mp begins
  rw [sinceFeed, List.rtakeWhile, List.reverse_append, List.takeWhile_append_of_pos whole, nothing,
    List.append_nil, List.reverse_reverse]

theorem sinceFeed_append_feed (before after : List Char) :
    sinceFeed (before ++ '\n' :: after) = sinceFeed after := by
  rw [sinceFeed, sinceFeed, List.rtakeWhile, List.rtakeWhile, List.reverse_append,
    List.reverse_cons, List.append_assoc]
  congr 1
  induction after.reverse with
  | nil => simp
  | cons char rest ih =>
    rw [List.cons_append, List.takeWhile_cons, List.takeWhile_cons, ih]

/-- A line stands after as many line feeds as there are lines before it, and right after the last
one of them. -/
theorem place_of_line (text : List Char) (index : Nat) (line : List Char)
    (given : (lines text)[index]? = some line) :
    '\n' ∉ line ∧ ∃ before after, text = before ++ line ++ after ∧ before.count '\n' = index ∧
      sinceFeed before = [] := by
  induction text using line_induction generalizing index with
  | last text free =>
    rw [lines_of_notMem text free] at given
    split at given
    · simp at given
    · obtain ⟨rfl, rfl⟩ : index = 0 ∧ text = line := by
        simpa [List.getElem?_singleton] using given
      exact ⟨free, [], [], by simp, rfl, rfl⟩
  | ended first rest free ih =>
    rw [lines_append first rest free] at given
    cases index with
    | zero =>
      cases given
      obtain ⟨cut, parts⟩ := dropReturn_prefix first
      refine ⟨fun feed => free (parts ▸ List.mem_append_left cut feed), [], cut ++ '\n' :: rest, ?_,
        rfl, rfl⟩
      rw [List.nil_append, ← List.append_assoc, parts]
    | succ index =>
      obtain ⟨inside, before, after, rfl, counted, begins⟩ := ih index given
      refine ⟨inside, first ++ '\n' :: before, after, by simp, ?_, ?_⟩
      · rw [List.count_append, List.count_cons_self, List.count_eq_zero_of_not_mem free, counted]
        omega
      · rw [sinceFeed_append_feed, begins]

example : lines "a\r\nb\rc\n".toList = ["a".toList, "b\rc".toList] := by decide

end PatternLint.Text
