import Mathlib.Algebra.Group.Nat.Even
import Mathlib.Data.List.DropRight
import PatternLint.Rule.Preset

/-!
Rules as arguments. An `=` that belongs to the pattern is written with a backslash before it, and
what is read back is the pattern that was written. Whether an `=` is escaped depends on the number
of backslashes right before it, so a pattern can be written only where these numbers are even.
-/

namespace PatternLint.RuleSpec

def escape (pattern : List Char) : List Char :=
  pattern.flatMap fun char => if char = '=' then ['\\', '='] else [char]

def backslashes (text : List Char) : Nat := (text.rtakeWhile (· = '\\')).length

/-- Right before every `=` stands an even number of backslashes. -/
def EvenAtEquals (text : List Char) : Prop :=
  ∀ before after, text = before ++ '=' :: after → Even (backslashes before)

def argumentOf (pattern : String) : String := String.ofList (escape pattern.toList)

def messageOf (text : String) : Option String :=
  if Text.trim text = "" then none else some (Text.trim text)

/-- Whether the next character is escaped once a text has been read. -/
def escapedAfter (escaped : Bool) (text : List Char) : Bool :=
  text.foldl (fun escaped char => char = '\\' && !escaped) escaped

theorem backslashes_concat (text : List Char) (char : Char) :
    backslashes (text ++ [char]) = if char = '\\' then backslashes text + 1 else 0 := by
  unfold backslashes
  rw [List.rtakeWhile_concat]
  by_cases same : char = '\\' <;> simp [same]

theorem escapedAfter_concat (escaped : Bool) (text : List Char) (char : Char) :
    escapedAfter escaped (text ++ [char]) = (char = '\\' && !escapedAfter escaped text) := by
  simp [escapedAfter]

theorem escapedAfter_eq_false_iff (text : List Char) :
    escapedAfter false text = false ↔ Even (backslashes text) := by
  induction text using List.reverseRecOn with
  | nil => exact iff_of_true rfl Even.zero
  | append_singleton text char ih =>
    rw [escapedAfter_concat, backslashes_concat]
    by_cases same : char = '\\'
    · rw [if_pos same, Nat.even_add_one, ← ih]
      simp [same]
    · simp [same]

section Escaping

theorem escape_cons_equals (rest : List Char) : escape ('=' :: rest) = '\\' :: '=' :: escape rest :=
  rfl

theorem escape_cons (char : Char) (rest : List Char) (other : char ≠ '=') :
    escape (char :: rest) = char :: escape rest := by
  simp [escape, other]

theorem escape_append (first second : List Char) :
    escape (first ++ second) = escape first ++ escape second := List.flatMap_append

theorem head?_escape_ne (text : List Char) : (escape text).head? ≠ some '=' := by
  cases text with
  | nil => simp [escape]
  | cons char rest =>
    by_cases same : char = '='
    · simp [same, escape_cons_equals]
    · simpa [escape_cons char rest same] using same

theorem unescape_cons (char : Char) (rest : List Char)
    (plain : ¬ (char = '\\' ∧ rest.head? = some '=')) :
    unescape (char :: rest) = char :: unescape rest := by
  rw [unescape]
  rintro after rfl rfl
  exact plain ⟨rfl, rfl⟩

theorem unescape_escape (text : List Char) : unescape (escape text) = text := by
  induction text with
  | nil => rfl
  | cons char rest ih =>
    by_cases same : char = '='
    · rw [same, escape_cons_equals, unescape, ih]
    · rw [escape_cons char rest same, unescape_cons _ _ fun both => head?_escape_ne rest both.2, ih]

theorem escapedAfter_escape (escaped : Bool) (text : List Char) :
    escapedAfter escaped (escape text) = escapedAfter escaped text := by
  induction text generalizing escaped with
  | nil => rfl
  | cons char rest ih =>
    by_cases same : char = '='
    · rw [same, escape_cons_equals]
      exact ih false
    · rw [escape_cons char rest same]
      exact ih _

/-- Where a backslash stands before every `=`, these are the backslashes that escaping puts. -/
theorem escape_unescape (text : List Char)
    (covered : ∀ before after, text = before ++ '=' :: after → before.getLast? = some '\\') :
    escape (unescape text) = text := by
  fun_induction unescape text with
  | case1 => rfl
  | case2 rest ih =>
    rw [escape_cons_equals, ih]
    intro before after parts
    have ends := covered ('\\' :: '=' :: before) after (by rw [parts]; rfl)
    cases before with
    | nil => simp at ends
    | cons first more => simpa using ends
  | case3 char rest plain ih =>
    have other : char ≠ '=' := by
      rintro rfl
      simpa using covered [] rest rfl
    rw [escape_cons char _ other, ih]
    intro before after parts
    have ends := covered (char :: before) after (by rw [parts]; rfl)
    cases before with
    | nil => exact absurd parts (plain after (by simpa using ends))
    | cons first more => simpa using ends

end Escaping

/-- A text is cut at its first `=` that is not escaped, or nowhere if there is none. -/
structure Cut (escaped : Bool) (text before : List Char) (after : Option (List Char)) : Prop where
  parts : text = before ++ after.elim [] ('=' :: ·)
  inside : ∀ left right, before = left ++ '=' :: right → escapedAfter escaped left = true
  ends : after.isSome → escapedAfter escaped before = false

theorem cut_nil (escaped : Bool) : Cut escaped [] [] none where
  parts := rfl
  inside := by simp
  ends := by simp

theorem cut_here (rest : List Char) : Cut false ('=' :: rest) [] (some rest) where
  parts := rfl
  inside := by simp
  ends := fun _ => rfl

theorem Cut.cons {escaped : Bool} {char : Char} {rest before : List Char}
    {after : Option (List Char)} (passed : ¬ (char = '=' ∧ escaped = false))
    (cut : Cut (char = '\\' && !escaped) rest before after) :
    Cut escaped (char :: rest) (char :: before) after where
  parts := congrArg (char :: ·) cut.parts
  inside left right same := by
    cases left with
    | nil =>
      obtain ⟨rfl, _⟩ := List.cons.inj same
      simpa [escapedAfter] using passed
    | cons first left =>
      obtain ⟨rfl, later⟩ := List.cons.inj same
      exact cut.inside left right later
  ends := cut.ends

theorem cut_splitAtEquals (escaped : Bool) (text : List Char) :
    Cut escaped text (splitAtEquals escaped text).1 (splitAtEquals escaped text).2 := by
  fun_induction splitAtEquals escaped text with
  | case1 => exact cut_nil _
  | case2 escaped char rest here =>
    obtain ⟨rfl, rfl⟩ := here
    exact cut_here rest
  | case3 escaped char rest passed before after later ih =>
    rw [later] at ih
    exact ih.cons passed

theorem Cut.unique {escaped : Bool} {text before : List Char} {after : Option (List Char)}
    (cut : Cut escaped text before after) : splitAtEquals escaped text = (before, after) := by
  induction before generalizing escaped text with
  | nil =>
    have parts := cut.parts
    cases after with
    | none => rw [parts]; rfl
    | some rest =>
      obtain rfl : escaped = false := cut.ends rfl
      rw [parts]
      rfl
  | cons char before ih =>
    have passed : ¬ (char = '=' ∧ escaped = false) := by
      rintro ⟨rfl, rfl⟩
      exact absurd (cut.inside [] before rfl) (by decide)
    have later : Cut (char = '\\' && !escaped) (before ++ after.elim [] ('=' :: ·)) before after :=
      { parts := rfl
        inside := fun left right same => cut.inside (char :: left) right (by rw [same]; rfl)
        ends := cut.ends }
    rw [cut.parts, List.cons_append, splitAtEquals, if_neg passed, ih later]

theorem Cut.pattern {text before : List Char} {after : Option (List Char)}
    (cut : Cut false text before after) :
    escape (unescape before) = before ∧ EvenAtEquals (unescape before) ∧
      (after.isSome → Even (backslashes (unescape before))) := by
  have back : escape (unescape before) = before := by
    apply escape_unescape
    intro left right same
    have escaped := cut.inside left right same
    rcases List.eq_nil_or_concat left with rfl | ⟨init, last, rfl⟩
    · cases escaped
    · rw [List.concat_eq_append, escapedAfter_concat, Bool.and_eq_true,
        decide_eq_true_eq] at escaped
      rw [List.concat_eq_append, List.getLast?_concat, escaped.1]
  refine ⟨back, ?_, ?_⟩
  · intro left right same
    have escaped := cut.inside (escape left ++ ['\\']) (escape right) (by
      rw [← back, same, escape_append, escape_cons_equals]
      simp)
    rw [escapedAfter_concat, escapedAfter_escape] at escaped
    exact (escapedAfter_eq_false_iff left).mp (by simpa using escaped)
  · intro given
    have plain := cut.ends given
    rw [← back, escapedAfter_escape] at plain
    exact (escapedAfter_eq_false_iff _).mp plain

theorem equals_of_escape (text left right : List Char)
    (parts : escape text = left ++ '=' :: right) :
    ∃ before after, text = before ++ '=' :: after ∧ left = escape before ++ ['\\'] := by
  induction text generalizing left with
  | nil => simp [escape] at parts
  | cons char rest ih =>
    by_cases same : char = '='
    · subst same
      rw [escape_cons_equals] at parts
      rcases left with _ | ⟨first, _ | ⟨second, left⟩⟩
      · simp at parts
      · obtain ⟨rfl, _⟩ := List.cons.inj parts
        exact ⟨[], rest, rfl, rfl⟩
      · simp only [List.cons_append, List.cons.injEq] at parts
        obtain ⟨rfl, rfl, later⟩ := parts
        obtain ⟨before, after, rfl, rfl⟩ := ih left later
        exact ⟨'=' :: before, after, rfl, rfl⟩
    · rw [escape_cons char rest same] at parts
      cases left with
      | nil => exact absurd (List.cons.inj parts).1 same
      | cons first left =>
        simp only [List.cons_append, List.cons.injEq] at parts
        obtain ⟨rfl, later⟩ := parts
        obtain ⟨before, after, rfl, rfl⟩ := ih left later
        exact ⟨char :: before, after, rfl, by rw [escape_cons char before same]; rfl⟩

/-- A pattern is cut off where it was joined to a message. -/
theorem cut_escape (pattern : List Char) (after : Option (List Char)) (even : EvenAtEquals pattern)
    (ends : after.isSome → Even (backslashes pattern)) :
    Cut false (escape pattern ++ after.elim [] ('=' :: ·)) (escape pattern) after where
  parts := rfl
  inside left right same := by
    obtain ⟨before, rest, parts, rfl⟩ := equals_of_escape pattern left right same
    rw [escapedAfter_concat, escapedAfter_escape,
      (escapedAfter_eq_false_iff before).mpr (even before rest parts)]
    rfl
  ends given := by
    rw [escapedAfter_escape, escapedAfter_eq_false_iff]
    exact ends given

theorem messageOf_ofList (rest : List Char) :
    messageOf (String.ofList rest) =
      if (Text.trimChars rest).isEmpty then none
      else some (String.ofList (Text.trimChars rest)) := by
  simp [messageOf, Text.trim]

theorem ofArgument_of_cut {argument : String} {before : List Char} {after : Option (List Char)}
    (cut : Cut false argument.toList before after) :
    ofArgument argument =
      if unescape before = [] then .error (.invalidRule argument .emptyPattern)
      else .ok ⟨String.ofList (unescape before),
        after.bind fun rest => messageOf (String.ofList rest), []⟩ := by
  simp only [ofArgument, ofArgument?, cut.unique]
  cases pattern : unescape before with
  | nil => simp
  | cons char more =>
    cases after with
    | none => simp [Text.trimChars, Text.dropBlanks]
    | some rest => simp [messageOf_ofList]

theorem ofArgument_escaped {argument pattern : String} {after : Option (List Char)}
    (parts : argument.toList = escape pattern.toList ++ after.elim [] ('=' :: ·))
    (given : pattern ≠ "") (even : EvenAtEquals pattern.toList)
    (ends : after.isSome → Even (backslashes pattern.toList)) :
    ofArgument argument =
      .ok ⟨pattern, after.bind fun rest => messageOf (String.ofList rest), []⟩ := by
  have cut := cut_escape pattern.toList after even ends
  rw [← parts] at cut
  have filled : pattern.toList ≠ [] := by simpa using given
  rw [ofArgument_of_cut cut, unescape_escape, if_neg filled, String.ofList_toList]

theorem written_of_ofArgument (argument : String) (spec : RuleSpec)
    (read : ofArgument argument = .ok spec) :
    spec.pattern ≠ "" ∧ EvenAtEquals spec.pattern.toList ∧ spec.allow = [] ∧
      (argument = argumentOf spec.pattern ∧ spec.message = none ∨
        ∃ message, argument = argumentOf spec.pattern ++ "=" ++ message ∧
          Even (backslashes spec.pattern.toList) ∧ spec.message = messageOf message) := by
  have cut := cut_splitAtEquals false argument.toList
  rw [ofArgument_of_cut cut] at read
  obtain ⟨back, even, ends⟩ := cut.pattern
  have parts := cut.parts
  generalize (splitAtEquals false argument.toList).1 = before at *
  generalize (splitAtEquals false argument.toList).2 = after at *
  split at read
  · cases read
  · rename_i filled
    cases read
    refine ⟨by simpa using filled, by simpa using even, rfl, ?_⟩
    cases after with
    | none =>
      left
      refine ⟨?_, rfl⟩
      rw [argumentOf, String.toList_ofList, back, ← String.toList_inj, parts]
      simp
    | some rest =>
      right
      refine ⟨String.ofList rest, ?_, by simpa using ends rfl, by simp only [Option.bind_some]⟩
      rw [argumentOf, String.toList_ofList, back, ← String.toList_inj, parts]
      simp

theorem ofArgument_eq_error_iff (argument : String) (error : Error) :
    ofArgument argument = .error error ↔
      (argument = "" ∨ ∃ message, argument = "=" ++ message) ∧
        error = .invalidRule argument .emptyPattern := by
  constructor
  · intro failed
    have cut := cut_splitAtEquals false argument.toList
    rw [ofArgument_of_cut cut] at failed
    have back := cut.pattern.1
    have parts := cut.parts
    generalize (splitAtEquals false argument.toList).1 = before at *
    generalize (splitAtEquals false argument.toList).2 = after at *
    split at failed
    · rename_i empty
      obtain rfl : before = [] := by rw [← back, empty]; rfl
      refine ⟨?_, (Except.error.inj failed).symm⟩
      cases after with
      | none => exact .inl (by simpa using parts)
      | some rest =>
        refine .inr ⟨String.ofList rest, ?_⟩
        rw [← String.toList_inj, parts]
        simp
    · cases failed
  · rintro ⟨rfl | ⟨message, rfl⟩, rfl⟩
    · have cut : Cut false "".toList [] none := cut_nil false
      rw [ofArgument_of_cut cut]
      rfl
    · have cut : Cut false ("=" ++ message).toList [] (some message.toList) := by
        simpa using cut_here message.toList
      rw [ofArgument_of_cut cut]
      rfl

/-- What is written is what is read, and nothing but the empty pattern is refused. -/
structure Codec : Prop where
  reads : ∀ pattern message : String, pattern ≠ "" → EvenAtEquals pattern.toList →
    Even (backslashes pattern.toList) →
      ofArgument (argumentOf pattern ++ "=" ++ message) = .ok ⟨pattern, messageOf message, []⟩
  readsBare : ∀ pattern : String, pattern ≠ "" → EvenAtEquals pattern.toList →
    ofArgument (argumentOf pattern) = .ok ⟨pattern, none, []⟩
  written : ∀ argument spec, ofArgument argument = .ok spec →
    spec.pattern ≠ "" ∧ EvenAtEquals spec.pattern.toList ∧ spec.allow = [] ∧
      (argument = argumentOf spec.pattern ∧ spec.message = none ∨
        ∃ message, argument = argumentOf spec.pattern ++ "=" ++ message ∧
          Even (backslashes spec.pattern.toList) ∧ spec.message = messageOf message)
  refuses : ∀ argument error, ofArgument argument = .error error ↔
    (argument = "" ∨ ∃ message, argument = "=" ++ message) ∧
      error = .invalidRule argument .emptyPattern

theorem ofArgument_codec : Codec where
  reads pattern message given even ends := by
    have parts : (argumentOf pattern ++ "=" ++ message).toList =
        escape pattern.toList ++ (some message.toList).elim [] ('=' :: ·) := by simp [argumentOf]
    simpa using ofArgument_escaped parts given even fun _ => ends
  readsBare pattern given even := by
    have parts : (argumentOf pattern).toList =
        escape pattern.toList ++ none.elim [] ('=' :: ·) := by simp [argumentOf]
    simpa using ofArgument_escaped parts given even nofun
  written := written_of_ofArgument
  refuses := ofArgument_eq_error_iff

theorem argument_of_two_backslashes :
    EvenAtEquals "\\\\=".toList ∧
      ofArgument ("\\\\\\=" ++ "=" ++ " no ") = .ok ⟨"\\\\=", messageOf " no ", []⟩ := by
  have asked : ofArgument "\\\\\\=" = .ok ⟨"\\\\=", none, []⟩ := by rfl
  have even := (ofArgument_codec.written _ _ asked).2.1
  have ends : Even (backslashes "\\\\=".toList) := by decide
  have spelled : argumentOf "\\\\=" = "\\\\\\=" := by decide
  have read := ofArgument_codec.reads "\\\\=" " no " (by decide) even ends
  rw [spelled] at read
  exact ⟨even, read⟩

end PatternLint.RuleSpec
