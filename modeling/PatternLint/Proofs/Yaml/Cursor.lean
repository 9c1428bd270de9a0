import PatternLint.Proofs.Text.Run
import PatternLint.Yaml.Cursor

namespace PatternLint.Yaml

def isVisible (char : Char) : Bool :=
  !(isBreak char || isBlank char || char = '#' || char = '\ufeff')

/-- Nothing that could be stepped over comes first. -/
def Begins (text : List Char) : Prop := ∀ char ∈ text.head?, isVisible char = true

theorem begins_cons (char : Char) (rest : List Char) (visible : isVisible char = true) :
    Begins (char :: rest) := by
  intro first same
  rw [List.head?_cons, Option.mem_some] at same
  rwa [← same]

theorem isVisible_of_isAlphanum (char : Char) (letter : char.isAlphanum = true) :
    isVisible char = true := by
  have other (mark : Char) (outside : mark.isAlphanum = false) : char ≠ mark :=
    Text.ne_of_kinds Char.isAlphanum letter outside
  simp [isVisible, isBreak, isBlank, other]

namespace Cursor

theorem rest_advance (cursor : Cursor) (count : Nat) :
    (cursor.advance count).rest = cursor.rest.drop count :=
  rfl

@[simp]
theorem column_advance (cursor : Cursor) (count : Nat) :
    (cursor.advance count).column = cursor.column + count :=
  rfl

@[simp]
theorem keyAllowed_advance (cursor : Cursor) (count : Nat) :
    (cursor.advance count).keyAllowed = cursor.keyAllowed :=
  rfl

def allow (cursor : Cursor) (allowed : Bool) : Cursor := { cursor with keyAllowed := allowed }

@[simp]
theorem rest_allow (cursor : Cursor) (allowed : Bool) : (cursor.allow allowed).rest = cursor.rest :=
  rfl

@[simp]
theorem column_allow (cursor : Cursor) (allowed : Bool) :
    (cursor.allow allowed).column = cursor.column :=
  rfl

@[simp]
theorem keyAllowed_allow (cursor : Cursor) (allowed : Bool) :
    (cursor.allow allowed).keyAllowed = allowed :=
  rfl

@[simp]
theorem allow_allow (cursor : Cursor) (first second : Bool) :
    (cursor.allow first).allow second = cursor.allow second :=
  rfl

@[simp]
theorem allow_advance (cursor : Cursor) (allowed : Bool) (count : Nat) :
    (cursor.allow allowed).advance count = (cursor.advance count).allow allowed :=
  rfl

@[simp]
theorem column_nextLine (cursor : Cursor) : cursor.nextLine.column = 0 := rfl

theorem rest_nextLine {cursor : Cursor} {rest : List Char} (stands : cursor.rest = '\n' :: rest) :
    cursor.nextLine.rest = rest := by
  simp [nextLine, stands]

theorem advance_zero (cursor : Cursor) : cursor.advance 0 = cursor := rfl

theorem advance_advance (cursor : Cursor) (first second : Nat) :
    (cursor.advance first).advance second = cursor.advance (first + second) := by
  simp [advance, List.drop_drop, Nat.add_assoc]

theorem rest_advance_append {cursor : Cursor} {front rest : List Char}
    (stands : cursor.rest = front ++ rest) : (cursor.advance front.length).rest = rest := by
  rw [rest_advance, stands, List.drop_left]

theorem advanceTo_append {cursor : Cursor} {front rest : List Char}
    (stands : cursor.rest = front ++ rest) :
    cursor.advanceTo rest = cursor.advance front.length := by
  rw [advanceTo, stands, List.length_append, Nat.add_sub_cancel]

theorem isAtMarker_eq_false (cursor : Cursor) (char : Char) (rest : List Char)
    (stands : cursor.rest = char :: rest) (dash : char ≠ '-') (dot : char ≠ '.') :
    cursor.isAtMarker = false := by
  simp [isAtMarker, isAtMark, stands, dash, dot]

section Tokens

variable (brackets : Bool)

theorem toToken_begins (fuel : Nat) (cursor : Cursor) (begins : Begins cursor.rest) :
    toToken brackets fuel false cursor = cursor := by
  cases fuel with
  | zero => rfl
  | succ fuel =>
    unfold toToken
    cases stands : cursor.rest with
    | nil => rfl
    | cons char rest =>
      have visible : isVisible char = true := begins char (by rw [stands]; rfl)
      simp only [isVisible, isBlank, Bool.not_eq_true', Bool.or_eq_false_iff,
        decide_eq_false_iff_not] at visible
      obtain ⟨⟨⟨line, space, tab⟩, comment⟩, mark⟩ := visible
      simp [line, space, tab, comment, mark]

theorem toToken_blanks (count fuel : Nat) (cursor : Cursor) (text : List Char)
    (stands : cursor.rest = List.replicate count ' ' ++ text) (begins : Begins text)
    (enough : count ≤ fuel) :
    toToken brackets fuel false cursor = cursor.advance count := by
  induction count generalizing fuel cursor with
  | zero =>
    have here : Begins cursor.rest := by
      rwa [stands]
    rw [toToken_begins brackets fuel cursor here, advance_zero]
  | succ count ih =>
    obtain ⟨fuel, rfl⟩ : ∃ more, fuel = more + 1 := Nat.exists_eq_add_of_le' (by omega)
    rw [List.replicate_succ, List.cons_append] at stands
    have next : (cursor.advance 1).rest = List.replicate count ' ' ++ text := by
      rw [rest_advance, stands]
      rfl
    have further := ih fuel (cursor.advance 1) next (by omega)
    rw [advance_advance, Nat.add_comm 1 count] at further
    rw [toToken, stands]
    simp [isBreak, further]

end Tokens

/-- Behind the line end that comes next, and behind the blanks that the next line begins with. -/
def afterLine (cursor : Cursor) (count : Nat) : Cursor :=
  (cursor.nextLine.allow true).advance count

theorem toToken_line (count fuel : Nat) (cursor : Cursor) (text : List Char)
    (stands : cursor.rest = '\n' :: (List.replicate count ' ' ++ text)) (begins : Begins text)
    (enough : count < fuel) :
    toToken false fuel false cursor = cursor.afterLine count := by
  obtain ⟨fuel, rfl⟩ : ∃ more, fuel = more + 1 := Nat.exists_eq_add_of_le' (by omega)
  have next : (cursor.nextLine.allow true).rest = List.replicate count ' ' ++ text :=
    rest_nextLine stands
  have further := toToken_blanks false count fuel _ text next begins (by omega)
  rw [toToken, stands]
  simp only [isBreak, decide_true, Bool.true_or, if_true, Bool.not_false, Bool.or_true]
  exact further

/-- The cursor stands before a text, in a column in which a key or an entry may begin. -/
structure Stands (cursor : Cursor) (text : List Char) (column : Nat) : Prop where
  rest : cursor.rest = text
  column : cursor.column = column
  keyAllowed : cursor.keyAllowed = true

theorem stands_afterLine (cursor : Cursor) (count : Nat) (text : List Char)
    (stands : cursor.rest = '\n' :: (List.replicate count ' ' ++ text)) :
    (cursor.afterLine count).Stands text count where
  rest := by simp [afterLine, rest_advance, rest_nextLine stands]
  column := by simp [afterLine]
  keyAllowed := rfl

end Cursor

namespace Reader

section Runs

variable (cursor : Cursor)

@[simp]
theorem run_advance (count : Nat) : (advance count).run cursor = some ((), cursor.advance count) :=
  rfl

@[simp]
theorem run_allowKey (allowed : Bool) :
    (allowKey allowed).run cursor = some ((), cursor.allow allowed) :=
  rfl

@[simp]
theorem run_check (holds : Bool) (given : holds = true) :
    (check holds).run cursor = some ((), cursor) := by
  rw [given]
  rfl

theorem run_skip_begins (brackets : Bool) (begins : Begins cursor.rest) :
    (skip brackets).run cursor = some ((), cursor) := by
  have token := Cursor.toToken_begins brackets (cursor.rest.length + 1) cursor begins
  exact congrArg (fun finish => some ((), finish)) token

theorem run_skip_blanks (brackets : Bool) (count : Nat) (text : List Char)
    (stands : cursor.rest = List.replicate count ' ' ++ text) (begins : Begins text) :
    (skip brackets).run cursor = some ((), cursor.advance count) := by
  have enough : count ≤ cursor.rest.length + 1 := by
    simp [stands]
    omega
  have token := Cursor.toToken_blanks brackets count _ cursor text stands begins enough
  exact congrArg (fun finish => some ((), finish)) token

theorem run_skip_line (count : Nat) (text : List Char)
    (stands : cursor.rest = '\n' :: (List.replicate count ' ' ++ text)) (begins : Begins text) :
    (skip false).run cursor = some ((), cursor.afterLine count) := by
  have enough : count < cursor.rest.length + 1 := by
    simp [stands]
    omega
  have token := Cursor.toToken_line count _ cursor text stands begins enough
  exact congrArg (fun finish => some ((), finish)) token

end Runs

end Reader

end PatternLint.Yaml
