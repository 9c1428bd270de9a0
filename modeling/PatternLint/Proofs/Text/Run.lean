import Mathlib.Data.List.Basic

namespace PatternLint.Text

theorem ne_of_kinds (holds : Char → Bool) {char other : Char} (inside : holds char = true)
    (outside : holds other = false) : char ≠ other := by
  rintro rfl
  rw [inside] at outside
  cases outside

variable (holds : Char → Bool) (run rest : List Char) (inside : ∀ char ∈ run, holds char = true)
  (stop : ∀ char ∈ rest.head?, holds char = false)

include inside stop

theorem takeWhile_run : (run ++ rest).takeWhile holds = run := by
  rw [List.takeWhile_append_of_pos inside]
  cases rest with
  | nil => exact List.append_nil run
  | cons char after =>
    have other : ¬ holds char = true := Bool.not_eq_true (holds char) ▸ stop char rfl
    rw [List.takeWhile_cons_of_neg other, List.append_nil]

theorem dropWhile_run : (run ++ rest).dropWhile holds = rest := by
  rw [List.dropWhile_append_of_pos inside]
  cases rest with
  | nil => rfl
  | cons char after =>
    have other : ¬ holds char = true := Bool.not_eq_true (holds char) ▸ stop char rfl
    exact List.dropWhile_cons_of_neg other

end PatternLint.Text
