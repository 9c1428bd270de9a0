import PatternLint.Proofs.Config.Content
import PatternLint.Proofs.Yaml.Text
import PatternLint.Yaml.Document

namespace PatternLint.Yaml

open Config (Content)

def Admitted (text : List Char) : Prop := ∀ char ∈ text, isAdmitted char = true

theorem admitted_nil : Admitted [] := by
  simp [Admitted]

theorem admitted_append {first second : List Char} (before : Admitted first)
    (behind : Admitted second) : Admitted (first ++ second) := by
  intro char member
  rcases List.mem_append.mp member with member | member
  · exact before char member
  · exact behind char member

theorem admitted_cons {char : Char} {rest : List Char} (here : isAdmitted char = true)
    (behind : Admitted rest) : Admitted (char :: rest) := by
  intro other member
  rcases List.mem_cons.mp member with rfl | member
  · exact here
  · exact behind other member

theorem admitted_flatMap {Item : Type} {items : List Item} {write : Item → List Char}
    (each : ∀ item ∈ items, Admitted (write item)) : Admitted (items.flatMap write) := by
  intro char member
  obtain ⟨item, present, member⟩ := List.mem_flatMap.mp member
  exact each item present char member

section Characters

theorem isAdmitted_of_range (first last : Char) {char : Char} (printable : ' ' ≤ first ∧ last ≤ '~')
    (range : first ≤ char ∧ char ≤ last) : isAdmitted char = true := by
  have low : 0x20 ≤ char.toNat := Char.le_trans printable.1 range.1
  have high : char.toNat ≤ 0x7E := Char.le_trans range.2 printable.2
  simp [isAdmitted, low, high]

theorem within_of_and {first last char : Char}
    (inside : (decide (first ≤ char) && decide (char ≤ last)) = true) :
    first ≤ char ∧ char ≤ last := by
  simpa using inside

theorem isAdmitted_of_isWordChar (char : Char) (inside : isWordChar char = true) :
    isAdmitted char = true := by
  have kinds : (char.isUpper || char.isLower || char.isDigit || decide (char = '_')) = true :=
    inside
  simp only [Bool.or_eq_true, decide_eq_true_eq] at kinds
  rcases kinds with ((upper | lower) | digit) | rfl
  · exact isAdmitted_of_range 'A' 'Z' (by decide) (of_decide_eq_true upper)
  · exact isAdmitted_of_range 'a' 'z' (by decide) (within_of_and lower)
  · exact isAdmitted_of_range '0' '9' (by decide) (within_of_and digit)
  · rfl

theorem isAdmitted_of_isDigitOf (base : Nat) (char : Char)
    (digit : Text.isDigitOf base char = true) : isAdmitted char = true := by
  unfold Text.isDigitOf Unicode.hexValue? at digit
  split at digit
  · exact isAdmitted_of_range '0' '9' (by decide) ‹_›
  split at digit
  · exact isAdmitted_of_range 'a' 'f' (by decide) ‹_›
  split at digit
  · exact isAdmitted_of_range 'A' 'F' (by decide) ‹_›
  · cases digit

theorem isAdmitted_of_isPlain (char : Char) (stands : Text.isPlain char = true) :
    isAdmitted char = true := by
  simp only [Text.isPlain, Bool.and_eq_true, decide_eq_true_eq] at stands
  exact isAdmitted_of_range ' ' '~' (by decide) stands.1.1

end Characters

section Texts

theorem admitted_escape (char : Char) (tail : List Char) (behind : Text.Escape escapes char tail) :
    Admitted tail := by
  have all : (Text.marks escapes).all isAdmitted = true := rfl
  obtain ⟨letter, digits, rfl, mark, only⟩ := Text.parts_of_escape escapes char tail behind
  exact admitted_cons (List.all_eq_true.mp all letter mark) fun digit member =>
    isAdmitted_of_isDigitOf 16 digit (only digit member)

theorem admitted_spelled (text body : List Char) (spelled : Text.Spelled escapes text body) :
    Admitted body := by
  induction spelled with
  | nil => exact admitted_nil
  | plain char text body stands more ih =>
    exact admitted_cons (isAdmitted_of_isPlain char stands) ih
  | escape char text tail body behind more ih =>
    exact admitted_cons rfl (admitted_append (admitted_escape char tail behind) ih)

variable (quote : String → List Char) (quotes : Text.Quotes escapes quote)

include quotes

theorem admitted_quote (text : String) : Admitted (quote text) := by
  obtain ⟨body, spelled, written⟩ := quotes text
  rw [written]
  exact admitted_cons rfl (admitted_append (admitted_spelled _ body spelled)
    (admitted_cons rfl admitted_nil))

theorem admitted_rowTail (values : List String) : Admitted (Config.rowTail quote values) := by
  induction values with
  | nil => exact admitted_cons rfl admitted_nil
  | cons value values ih =>
    exact admitted_cons rfl (admitted_cons rfl
      (admitted_append (admitted_quote quote quotes value) ih))

theorem admitted_written (content : Content) : Admitted (content.written quote) := by
  cases content with
  | text value => exact admitted_quote quote quotes value
  | texts values =>
    cases values with
    | nil => exact admitted_cons rfl (admitted_cons rfl admitted_nil)
    | cons value values =>
      rw [Config.written_texts_cons]
      exact admitted_cons rfl (admitted_append (admitted_quote quote quotes value)
        (admitted_rowTail quote quotes values))
  | flag value =>
    have all : ((Content.flag value).written quote).all isAdmitted = true := by
      cases value <;> rfl
    exact List.all_eq_true.mp all
  | count value =>
    intro char member
    rw [Config.written_count] at member
    have digit := Text.isDigit_of_mem_decimal value char member
    exact isAdmitted_of_isWordChar char (isWordChar_of_isDigit char digit)

end Texts

end PatternLint.Yaml
