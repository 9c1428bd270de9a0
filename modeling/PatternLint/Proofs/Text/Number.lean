import Mathlib.Data.List.Basic
import PatternLint.Text.Number

namespace PatternLint.Text

theorem hexValue?_digitChar (digit : Nat) (small : digit < 16) :
    Unicode.hexValue? (Nat.digitChar digit) = some digit := by
  have all : ∀ digit < 16, Unicode.hexValue? (Nat.digitChar digit) = some digit := by
    decide
  exact all digit small

theorem head?_toDigits_ne_zero (number : Nat) (positive : 0 < number) :
    (Nat.toDigits 10 number).head? ≠ some '0' := by
  induction number using Nat.strongRecOn with
  | ind number ih =>
    by_cases small : number < 10
    · rw [Nat.toDigits_of_lt_base small]
      simp
      omega
    · have large : 10 ≤ number := Nat.le_of_not_lt small
      rw [Nat.toDigits_of_base_le (by decide) large,
        List.head?_append_of_ne_nil _ (Nat.toDigits_ne_nil)]
      exact ih (number / 10) (by omega) (by omega)

theorem toDigits_ne_zero_cons (number : Nat) (letter : Char) (rest : List Char) :
    Nat.toDigits 10 number ≠ '0' :: letter :: rest := by
  intro same
  rcases Nat.eq_zero_or_pos number with rfl | positive
  · cases same
  · exact head?_toDigits_ne_zero number positive (by rw [same]; rfl)

theorem isDigit_of_mem_decimal (number : Nat) (char : Char)
    (member : char ∈ Nat.toDigits 10 number) : char.isDigit = true :=
  Nat.isDigit_of_mem_toDigits (by decide) (by decide) member

theorem notMem_toString (char : Char) (other : char.isDigit = false) (number : Nat) :
    char ∉ (toString number).toList := by
  rw [Nat.toString_eq_ofList_toDigits, String.toList_ofList]
  intro member
  rw [isDigit_of_mem_decimal number char member] at other
  cases other

theorem toDigits_ne (number : Nat) (text : List Char)
    (begins : text.head?.any Char.isDigit = false) :
    Nat.toDigits 10 number ≠ text := by
  rintro rfl
  obtain ⟨first, rest, same⟩ := List.exists_cons_of_ne_nil (@Nat.toDigits_ne_nil number 10)
  have digit := isDigit_of_mem_decimal number first (by rw [same]; exact List.mem_cons_self)
  rw [same, List.head?_cons, Option.any_some, digit] at begins
  cases begins

theorem numberOf_concat (base : Nat) (digits : List Char) (digit : Nat) (small : digit < 16) :
    numberOf base (digits ++ [Nat.digitChar digit]) = base * numberOf base digits + digit := by
  rw [numberOf, List.foldl_append, List.foldl_cons, List.foldl_nil, hexValue?_digitChar digit small]
  rfl

section

variable (base : Nat) (least : 1 < base) (most : base ≤ 16)

include least most

theorem numberOf_toDigits (number : Nat) : numberOf base (Nat.toDigits base number) = number := by
  induction number using Nat.strongRecOn with
  | ind number ih =>
    by_cases small : number < base
    · have single := numberOf_concat base [] number (by omega)
      rw [Nat.toDigits_of_lt_base small]
      simpa [numberOf] using single
    · have large : base ≤ number := Nat.le_of_not_lt small
      have digit : number % base < base := Nat.mod_lt number (by omega)
      have shorter : number / base < number := Nat.div_lt_self (by omega) least
      rw [Nat.toDigits_of_base_le least large, numberOf_concat _ _ _ (by omega), ih _ shorter,
        Nat.div_add_mod]

theorem isDigitOf_of_mem_toDigits (number : Nat) (char : Char)
    (member : char ∈ Nat.toDigits base number) : isDigitOf base char = true := by
  induction number using Nat.strongRecOn with
  | ind number ih =>
    by_cases small : number < base
    · rw [Nat.toDigits_of_lt_base small, List.mem_singleton] at member
      rw [member, isDigitOf, hexValue?_digitChar number (by omega)]
      simpa using small
    · have large : base ≤ number := Nat.le_of_not_lt small
      have digit : number % base < base := Nat.mod_lt number (by omega)
      have shorter : number / base < number := Nat.div_lt_self (by omega) least
      rw [Nat.toDigits_of_base_le least large] at member
      rcases List.mem_append.mp member with member | member
      · exact ih _ shorter member
      · rw [List.mem_singleton.mp member, isDigitOf, hexValue?_digitChar _ (by omega)]
        simpa using digit

theorem natural?_toDigits (number : Nat) :
    natural? base (Nat.toDigits base number) = some number := by
  have given : (Nat.toDigits base number).isEmpty = false :=
    List.isEmpty_eq_false_iff.mpr Nat.toDigits_ne_nil
  have all : (Nat.toDigits base number).all (isDigitOf base) = true :=
    List.all_eq_true.mpr (isDigitOf_of_mem_toDigits base least most number)
  rw [natural?, given, all, numberOf_toDigits base least most]
  rfl

end

end PatternLint.Text
