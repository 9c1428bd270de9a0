import PatternLint.PathFilter
import PatternLint.Proofs.Attempt

namespace PatternLint.PathFilter

theorem passes_defaultExcludes : Passes Glob.compile defaultExcludes := by
  intro glob member
  have compiled : defaultExcludes.all (fun glob => (Glob.compile glob).isOk) = true := by
    decide +kernel
  have one := List.all_eq_true.mp compiled glob member
  cases tried : Glob.compile glob with
  | error error =>
    rw [tried] at one
    cases one
  | ok value => exact ⟨value, rfl⟩

variable (includes excludes : List String)

theorem compile_eq_error_iff (error : Error) :
    compile includes excludes = .error error ↔
      includes.mapM Glob.compile = .error error ∨
        Passes Glob.compile includes ∧ excludes.mapM Glob.compile = .error error := by
  rw [compile, bind_eq_error_iff, passes_iff_exists_mapM]
  simp only [bind_pure_eq_error_iff, exists_and_right]

theorem compiles_iff :
    (∃ filter, compile includes excludes = .ok filter) ↔
      Passes Glob.compile includes ∧ Passes Glob.compile excludes := by
  rw [exists_eq_ok_iff, passes_iff_forall_mapM_ne _ excludes]
  simp only [ne_eq, compile_eq_error_iff, not_or, not_and, forall_and]
  rw [← passes_iff_forall_mapM_ne]
  exact and_congr_right fun passes => by simp [passes]

variable {includes excludes} {filter : PathFilter}

theorem compiled_globs (accepted : compile includes excludes = .ok filter) :
    List.Forall₂ (fun text glob => Glob.compile text = .ok glob) includes filter.includes ∧
      List.Forall₂ (fun text glob => Glob.compile text = .ok glob) excludes filter.excludes := by
  obtain ⟨first, included, accepted⟩ := (bind_eq_ok_iff _ _ _).mp accepted
  obtain ⟨second, excluded, accepted⟩ := (bind_eq_ok_iff _ _ _).mp accepted
  cases accepted
  exact ⟨(mapM_eq_ok_iff _ _ _).mp included, (mapM_eq_ok_iff _ _ _).mp excluded⟩

/-- Excluding by default as well refuses no more globs. -/
theorem compilesWithDefaults_iff :
    (∃ filter, compileWithDefaults includes excludes = .ok filter) ↔
      Passes Glob.compile includes ∧ Passes Glob.compile excludes := by
  rw [compileWithDefaults, compiles_iff]
  simp only [Passes, List.forall_mem_append]
  exact and_congr_right fun _ => and_iff_right passes_defaultExcludes

end PatternLint.PathFilter
