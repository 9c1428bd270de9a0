import PatternLint.Proofs.FileTree.Lookup
import PatternLint.Proofs.Scan.Text
import PatternLint.Proofs.Text.Encoding
import PatternLint.Scan.Tree

namespace PatternLint.Scan

variable (tree : FileTree) (base : Location)

theorem readText_eq_ok_iff (path : RawText) (text : String) :
    readText tree base path = .ok text ↔ tree.read base path = .ok text.toUTF8 := by
  unfold readText
  cases tree.read base path with
  | error fault => exact iff_of_false nofun nofun
  | ok bytes =>
    rcases Text.text_or_no_text bytes with ⟨other, rfl⟩ | noText
    · simp only [Text.fromUTF8?_toUTF8, Except.ok.injEq]
      rw [String.toUTF8_eq_toByteArray, String.toUTF8_eq_toByteArray, String.toByteArray_inj]
    · simp only [Text.fromUTF8?_eq_none bytes noText]
      refine iff_of_false nofun fun same => ?_
      exact noText text (Except.ok.inj same).symm

theorem readText_eq_error_iff (path : RawText) (fault : ReadFault) :
    readText tree base path = .error fault ↔
      (∃ io, tree.read base path = .error io ∧ fault = .io io) ∨
        ∃ bytes, tree.read base path = .ok bytes ∧ (∀ text : String, text.toUTF8 ≠ bytes) ∧
          fault = .encoding := by
  unfold readText
  cases tree.read base path with
  | error io => simp [eq_comm]
  | ok bytes =>
    rcases Text.text_or_no_text bytes with ⟨text, rfl⟩ | noText
    · simp only [Text.fromUTF8?_toUTF8]
      refine iff_of_false nofun ?_
      rintro (⟨_, failed, _⟩ | ⟨_, same, noText, _⟩)
      · cases failed
      · exact noText text (Except.ok.inj same)
    · simp only [Text.fromUTF8?_eq_none bytes noText]
      constructor
      · rintro ⟨⟩
        exact .inr ⟨bytes, rfl, noText, rfl⟩
      · rintro (⟨_, failed, _⟩ | ⟨_, _, _, rfl⟩)
        · cases failed
        · rfl

variable (rules : RuleSet) (candidate : Candidate)

theorem outcome_path : (outcome tree base rules candidate).path = candidate.shown := by
  unfold outcome
  split <;> rfl

theorem outcome_own (violation : Violation)
    (member : violation ∈ (outcome tree base rules candidate).violations) :
    violation.path = candidate.shown := by
  unfold outcome at member
  split at member
  · exact textViolations_path _ rules _ violation member
  · cases member

theorem outcome_searched :
    (outcome tree base rules candidate).violations.Pairwise fun one other =>
      one.searchKey < other.searchKey := by
  unfold outcome
  split
  · exact textViolations_pairwise _ rules _
  · exact .nil

theorem mem_outcome_violations_iff (violation : Violation) :
    violation ∈ (outcome tree base rules candidate).violations ↔
      ∃ text : String, tree.read base candidate.path = .ok text.toUTF8 ∧
        violation ∈ textViolations candidate.shown rules text := by
  simp only [← readText_eq_ok_iff]
  unfold outcome
  cases readText tree base candidate.path with
  | ok text => simp [Outcome.violations]
  | error fault => simp [Outcome.violations]

theorem outcome_skipped_iff (skipped : Skipped) :
    (outcome tree base rules candidate).skipped? = some skipped ↔
      ∃ fault, readText tree base candidate.path = .error fault ∧
        skipped = ⟨candidate.shown, skipReason fault⟩ := by
  unfold outcome
  cases readText tree base candidate.path with
  | ok text => simp [Outcome.skipped?]
  | error fault => simp [Outcome.skipped?, eq_comm]

theorem outcome_isScanned_iff :
    (outcome tree base rules candidate).isScanned = true ↔
      ∃ text : String, tree.read base candidate.path = .ok text.toUTF8 := by
  simp only [← readText_eq_ok_iff]
  unfold outcome
  cases readText tree base candidate.path with
  | ok text => simp [Outcome.isScanned]
  | error fault => simp [Outcome.isScanned]

end PatternLint.Scan
