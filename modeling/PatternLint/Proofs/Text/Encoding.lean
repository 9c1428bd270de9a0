import Mathlib.Data.String.Basic

namespace PatternLint.Text

theorem fromUTF8?_toUTF8 (text : String) : String.fromUTF8? text.toUTF8 = some text := by
  unfold String.fromUTF8?
  rw [String.toUTF8_eq_toByteArray, dif_pos text.isValidUTF8]
  rfl

theorem fromUTF8?_eq_none (bytes : ByteArray) (noText : ∀ text : String, text.toUTF8 ≠ bytes) :
    String.fromUTF8? bytes = none := by
  unfold String.fromUTF8?
  rw [dif_neg]
  intro valid
  exact noText (String.fromUTF8 bytes valid) rfl

theorem text_or_no_text (bytes : ByteArray) :
    (∃ text : String, text.toUTF8 = bytes) ∨ ∀ text : String, text.toUTF8 ≠ bytes := by
  by_cases found : ∃ text : String, text.toUTF8 = bytes
  · exact .inl found
  · exact .inr fun text encoded => found ⟨text, encoded⟩

end PatternLint.Text
