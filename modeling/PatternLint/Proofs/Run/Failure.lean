import PatternLint.Proofs.PathFilter.Compiling
import PatternLint.Proofs.Rule.Compiling
import PatternLint.Proofs.Scan.Order
import PatternLint.Run

namespace PatternLint.Run

section Inputs

theorem filterOf_passes_iff (settings : Settings) :
    (∃ filter, filterOf settings = .ok filter) ↔
      Passes Glob.compile settings.includes ∧ Passes Glob.compile settings.excludes := by
  unfold filterOf
  split
  · exact PathFilter.compilesWithDefaults_iff
  · exact PathFilter.compiles_iff _ _

end Inputs

section Ending

variable (surroundings : Surroundings)

/-- Apart from what it logs, a run scans with a filter and rules once these are compiled. -/
theorem scan_outcome (settings : Settings) :
    (scan surroundings settings).2 = (do
      let filter ← filterOf settings
      let rules ← RuleSet.compile settings.rules
      Scan.scan surroundings.tree surroundings.base surroundings.workers settings.root filter rules
        { threads := settings.threads }) := by
  unfold scan inputsOf Scan.scan
  cases filterOf settings with
  | error error => rfl
  | ok filter =>
    cases RuleSet.compile settings.rules with
    | error error => rfl
    | ok rules =>
      simp only [bind, Except.bind, pure, Except.pure]
      cases Scan.outcomes surroundings.tree surroundings.base surroundings.workers settings.root
        filter rules { threads := settings.threads } <;> rfl

end Ending

variable (surroundings : Surroundings) (overrides : Overrides)

end PatternLint.Run
