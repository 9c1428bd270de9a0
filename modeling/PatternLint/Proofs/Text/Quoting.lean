import PatternLint.Proofs.Text.Number
import PatternLint.Text.Escape

/-!
Texts written between double quotes with escapes: what such a writing looks like, whichever escapes
it takes, and one that writes every character it must escape by its number.
-/

namespace PatternLint.Text

/-- What may stand for itself between double quotes: printable ASCII but quotes and backslashes. -/
def isPlain (char : Char) : Bool :=
  0x20 ≤ char.toNat && char.toNat ≤ 0x7E && char != '"' && char != '\\'

/-- What may stand behind a backslash for a character: a letter that is known for it, or its number
in as many hexadecimal digits as another letter asks for. -/
inductive Escape (letters : List (Char × Char)) (char : Char) : List Char → Prop where
  | letter (letter : Char) (single : digitCount? letter = none)
      (named : letters.lookup letter = some char) : Escape letters char [letter]
  | number (letter : Char) (digits : List Char) (asked : digitCount? letter = some digits.length)
      (value : natural? 16 digits = some char.toNat) : Escape letters char (letter :: digits)

inductive Spelled (letters : List (Char × Char)) : List Char → List Char → Prop where
  | nil : Spelled letters [] []
  | plain (char : Char) (text body : List Char) (stands : isPlain char = true)
      (more : Spelled letters text body) : Spelled letters (char :: text) (char :: body)
  | escape (char : Char) (text tail body : List Char) (behind : Escape letters char tail)
      (more : Spelled letters text body) :
      Spelled letters (char :: text) ('\\' :: (tail ++ body))

/-- A way to write all texts between double quotes. -/
def Quotes (letters : List (Char × Char)) (quote : String → List Char) : Prop :=
  ∀ text, ∃ body, Spelled letters text.toList body ∧ quote text = '"' :: (body ++ ['"'])

theorem Quotes.begins {letters : List (Char × Char)} {quote : String → List Char}
    (quotes : Quotes letters quote) (text : String) (rest : List Char) :
    ∃ more, quote text ++ rest = '"' :: more := by
  obtain ⟨body, _, written⟩ := quotes text
  rw [written]
  exact ⟨_, rfl⟩

theorem charOfHex?_of_natural? (digits : List Char) (char : Char)
    (value : natural? 16 digits = some char.toNat) : charOfHex? digits = some char := by
  have valid : char.toNat.isValidChar := char.valid
  simp only [charOfHex?, value, bind, Option.bind, if_pos valid, Char.ofNat_toNat]

theorem readEscape_escape (letters : List (Char × Char)) (char : Char) (tail rest : List Char)
    (behind : Escape letters char tail) :
    readEscape letters (tail ++ rest) = some (char, rest) := by
  cases behind with
  | letter letter single named =>
    rw [List.singleton_append, readEscape, single, named]
    rfl
  | number letter digits asked value =>
    have enough : ¬ (digits ++ rest).length < digits.length := by
      simp
    simp only [List.cons_append, readEscape, asked, if_neg enough, List.take_left, List.drop_left,
      charOfHex?_of_natural? digits char value]
    rfl

def marks (letters : List (Char × Char)) : List Char := ['x', 'u', 'U'] ++ letters.map Prod.fst

theorem parts_of_escape (letters : List (Char × Char)) (char : Char) (tail : List Char)
    (behind : Escape letters char tail) :
    ∃ letter digits, tail = letter :: digits ∧ letter ∈ marks letters ∧
      ∀ digit ∈ digits, isDigitOf 16 digit = true := by
  cases behind with
  | letter letter single named =>
    obtain ⟨before, after, rfl, _⟩ := List.lookup_eq_some_iff.mp named
    exact ⟨letter, [], rfl, by simp [marks], by simp⟩
  | number letter digits asked value =>
    have mark : letter ∈ ['x', 'u', 'U'] := by
      unfold digitCount? at asked
      split at asked <;> simp at asked ⊢
    have all : digits.all (isDigitOf 16) = true := by
      cases kept : digits.all (isDigitOf 16) with
      | true => rfl
      | false =>
        rw [natural?, kept, Bool.not_false, Bool.or_true, if_pos rfl] at value
        cases value
    exact ⟨letter, digits, rfl, List.mem_append_left _ mark, List.all_eq_true.mp all⟩

def numberDigits (char : Char) : List Char := (Nat.toDigits 16 char.toNat).leftpad 8 '0'

def spellChar (char : Char) : List Char :=
  if isPlain char then [char] else '\\' :: 'U' :: numberDigits char

def quoteByNumber (text : String) : List Char := '"' :: (text.toList.flatMap spellChar ++ ['"'])

theorem length_numberDigits (char : Char) : (numberDigits char).length = 8 := by
  have small : char.toNat < 16 ^ 8 := by
    rcases char.valid with low | ⟨_, high⟩
    · exact Nat.lt_trans low (by decide)
    · exact Nat.lt_trans high (by decide)
  have short : (Nat.toDigits 16 char.toNat).length ≤ 8 :=
    (Nat.length_toDigits_le_iff (by decide) (by decide)).mpr small
  rw [numberDigits, List.leftpad, List.length_append, List.length_replicate]
  omega

theorem numberOf_zeros (base count : Nat) (digits : List Char) :
    numberOf base (List.replicate count '0' ++ digits) = numberOf base digits := by
  induction count with
  | zero => rfl
  | succ count ih => exact ih

theorem natural?_numberDigits (char : Char) :
    natural? 16 (numberDigits char) = some char.toNat := by
  have given : (numberDigits char).isEmpty = false := by
    apply List.isEmpty_eq_false_iff.mpr
    intro none
    have size := length_numberDigits char
    rw [none] at size
    cases size
  have all : (numberDigits char).all (isDigitOf 16) = true := by
    apply List.all_eq_true.mpr
    intro digit member
    rw [numberDigits, List.leftpad] at member
    rcases List.mem_append.mp member with member | member
    · rw [(List.mem_replicate.mp member).2]
      decide
    · exact isDigitOf_of_mem_toDigits 16 (by decide) (by decide) _ digit member
  have value : numberOf 16 (numberDigits char) = char.toNat := by
    rw [numberDigits, List.leftpad, numberOf_zeros, numberOf_toDigits 16 (by decide) (by decide)]
  rw [natural?, given, all, value]
  rfl

theorem quotes_quoteByNumber (letters : List (Char × Char)) : Quotes letters quoteByNumber := by
  intro text
  refine ⟨text.toList.flatMap spellChar, ?_, rfl⟩
  induction text.toList with
  | nil => exact .nil
  | cons char rest ih =>
    rw [List.flatMap_cons, spellChar]
    cases stands : isPlain char with
    | true => exact .plain char rest _ stands ih
    | false =>
      have behind : Escape letters char ('U' :: numberDigits char) :=
        .number 'U' _ (by rw [length_numberDigits]; rfl) (natural?_numberDigits char)
      exact .escape char rest _ _ behind ih

end PatternLint.Text
