import PatternLint.Proofs.Attempt
import PatternLint.Rule.Basic

namespace PatternLint.Rule

theorem compilePart_eq_ok_iff (spec : RuleSpec) (pattern : String) (regex : Regex) :
    compilePart spec pattern = .ok regex ↔ Regex.compile pattern = .ok regex := by
  unfold compilePart
  cases Regex.compile pattern <;> simp

theorem compile_eq_error_iff (spec : RuleSpec) (error : Error) :
    compile spec = .error error ↔
      ((spec.pattern :: spec.allow).map (spec, ·)).mapM
        (fun part : RuleSpec × String => compilePart part.1 part.2) = .error error := by
  rw [List.mapM_map, List.mapM_cons, compile, bind_eq_error_iff, bind_eq_error_iff]
  simp only [bind_pure_eq_error_iff, Function.comp_def]

theorem parts_of_compile {spec : RuleSpec} {rule : Rule} (compiled : compile spec = .ok rule) :
    Regex.compile spec.pattern = .ok rule.pattern ∧
      List.Forall₂ (fun text allowing => Regex.compile text = .ok allowing) spec.allow
        rule.allow := by
  obtain ⟨pattern, first, rest⟩ := (bind_eq_ok_iff _ _ _).mp compiled
  obtain ⟨allow, others, same⟩ := (bind_eq_ok_iff _ _ _).mp rest
  cases same
  refine ⟨(compilePart_eq_ok_iff spec spec.pattern pattern).mp first, ?_⟩
  refine ((mapM_eq_ok_iff _ _ _).mp others).imp fun text allowing => ?_
  exact (compilePart_eq_ok_iff spec text allowing).mp

theorem message_of_compile {spec : RuleSpec} {rule : Rule} (compiled : compile spec = .ok rule) :
    rule.message = spec.report := by
  obtain ⟨pattern, _, rest⟩ := (bind_eq_ok_iff _ _ _).mp compiled
  obtain ⟨allow, _, same⟩ := (bind_eq_ok_iff _ _ _).mp rest
  cases same
  rfl

/-- A rule compiles if all its patterns do. -/
theorem compiles_iff (spec : RuleSpec) :
    (∃ rule, compile spec = .ok rule) ↔ Passes Regex.compile (spec.pattern :: spec.allow) := by
  have same : Passes Regex.compile (spec.pattern :: spec.allow) ↔
      Passes (fun part : RuleSpec × String => compilePart part.1 part.2)
        ((spec.pattern :: spec.allow).map (spec, ·)) := by
    simp only [Passes, List.forall_mem_map, compilePart_eq_ok_iff]
  rw [same, exists_eq_ok_iff, passes_iff_forall_mapM_ne]
  simp only [ne_eq, compile_eq_error_iff]

end PatternLint.Rule
