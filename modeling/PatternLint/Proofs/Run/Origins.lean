import PatternLint.Proofs.Config.Keys
import PatternLint.Proofs.Rule.Finding
import PatternLint.Proofs.Rule.WellFormed
import PatternLint.Proofs.Run.Failure
import PatternLint.Proofs.Scan.Position
import PatternLint.Proofs.Scan.Report
import PatternLint.Proofs.Settings.Precedence

/-!
Where what a run reports comes from. Each violation was found by a rule of the settings in a file
below the root; the rules themselves come from a preset, from arguments or from the configuration
file, and only those of the file are taken whatever they are.
-/

namespace PatternLint

namespace Settings

variable {overrides : Overrides} {config : Config}

theorem wellFormed_of_presetRules (rules : List RuleSpec)
    (asked : PresetRules overrides config rules) : ∀ spec ∈ rules, spec.WellFormed := by
  cases asked with
  | nothing none => exact List.forall_mem_nil _
  | named name rules _ found => exact RuleSpec.wellFormed_of_preset name rules found

theorem ownRules_wellFormed_iff (rules : List RuleSpec) (asked : OwnRules overrides config rules) :
    (∀ spec ∈ rules, spec.WellFormed) ↔
      overrides.rules ≠ [] ∨ ∀ spec ∈ config.rules, spec.WellFormed := by
  cases asked with
  | arguments rules given read =>
    refine iff_of_true ?_ (.inl given)
    intro spec member
    obtain ⟨argument, _, made⟩ := exists_item_of_mem RuleSpec.ofArgument read spec member
    exact RuleSpec.wellFormed_of_ofArgument argument spec made
  | configured none => rw [or_iff_right (not_not.mpr none)]

theorem settled_wellFormed_iff {tree : FileTree} {base : Location} {here : RawText}
    {settings : Settings} (settled : Settled tree base here overrides config settings) :
    (∀ spec ∈ settings.rules, spec.WellFormed) ↔
      overrides.rules ≠ [] ∨ ∀ spec ∈ config.rules, spec.WellFormed := by
  obtain ⟨preset, own, named, written, parts⟩ := settled.rules
  rw [parts, List.forall_mem_append, ← ownRules_wellFormed_iff own written]
  exact and_iff_right (wellFormed_of_presetRules preset named)

theorem resolve_onlyFile (text : String) (rules : List RuleSpec)
    (read : Config.Format.toml.read? text = some { rules }) (some : rules ≠ []) :
    resolve (Config.onlyFile text) [] [Path.slash] { root := "/" } =
      .ok (assemble { root := "/" } { rules } [Path.slash] (Text.raw "/lintcheck.toml") .human
        rules) := by
  have located : Located (Config.onlyFile text) [] [Path.slash] { root := "/" } [Path.slash]
      (Text.raw "/lintcheck.toml") :=
    (located_iff _ _).mpr ⟨rfl, (Config.find?_onlyFile text).symm⟩
  have sources : Sources (Config.onlyFile text) [] [Path.slash] { root := "/" } [Path.slash]
      (Text.raw "/lintcheck.toml") { rules } :=
    ⟨located, .file _ _ (Config.loads_onlyFile text _ read)⟩
  have found : rulesOf { root := "/" } { rules } = .ok rules := rfl
  rw [resolve_of_output _ _ _ sources .human rfl, found]
  exact if_neg (by simpa using some)

theorem resolve_arguments (tree : FileTree) (arguments : List String)
    (defaultExcludes : Option Bool) (rules : List RuleSpec)
    (none : Config.find? tree [] [Path.slash] = none)
    (found : rulesOf { root := "/", rules := arguments, defaultExcludes } {} = .ok rules)
    (some : rules ≠ []) :
    resolve tree [] [Path.slash] { root := "/", rules := arguments, defaultExcludes } =
      .ok (assemble { root := "/", rules := arguments, defaultExcludes } {} [Path.slash] .none
        .human rules) := by
  have located : Located tree [] [Path.slash] { root := "/", rules := arguments, defaultExcludes }
      [Path.slash] .none := (located_iff _ _).mpr ⟨rfl, none.symm⟩
  rw [resolve_of_output _ _ _ ⟨located, .nothing⟩ .human rfl, found]
  exact if_neg (by simpa using some)

end Settings

namespace Run

open FileTree (RealFile namesText)

variable {surroundings : Surroundings} {settings : Settings} {result : ScanResult}

theorem inputs_of_scan (scanned : (scan surroundings settings).2 = .ok result) :
    ∃ filter rules, RuleSet.compile settings.rules = .ok rules ∧
      Scan.scan surroundings.tree surroundings.base surroundings.workers settings.root filter rules
        { threads := settings.threads } = .ok result := by
  rw [scan_outcome] at scanned
  obtain ⟨filter, _, scanned⟩ := (bind_eq_ok_iff ..).mp scanned
  obtain ⟨rules, compiled, scanned⟩ := (bind_eq_ok_iff ..).mp scanned
  exact ⟨filter, rules, compiled, scanned⟩

variable (surroundings settings) in
theorem scan_of_inputs (filter : PathFilter) (rules : RuleSet)
    (filtered : filterOf settings = .ok filter)
    (compiled : RuleSet.compile settings.rules = .ok rules) :
    (scan surroundings settings).2 =
      Scan.scan surroundings.tree surroundings.base surroundings.workers settings.root filter rules
        { threads := settings.threads } := by
  rw [scan_outcome, filtered, compiled]
  rfl

/-- The rule and the file that a violation comes from. -/
structure Origin (tree : FileTree) (base : Location) (settings : Settings) (violation : Violation)
    (spec : RuleSpec) : Prop where
  named : settings.rules[violation.rule]? = some spec
  told : violation.message = spec.report
  reports : ∃ rule line, Rule.compile spec = .ok rule ∧ rule.findIn line ≠ []
  file : ∃ place names bytes, tree.resolve base settings.root = .ok (.directory place) ∧
    RealFile tree place names bytes ∧ violation.path = String.ofList (namesText names)

theorem exists_origin (scanned : (scan surroundings settings).2 = .ok result)
    (violation : Violation) (member : violation ∈ result.violations) :
    ∃ spec, Origin surroundings.tree surroundings.base settings violation spec := by
  obtain ⟨filter, rules, compiled, scanned⟩ := inputs_of_scan scanned
  obtain ⟨list, worked, rfl⟩ := (Scan.scan_eq_ok_iff _).mp scanned
  obtain ⟨⟨place, opened⟩, _, rfl⟩ := (Scan.outcomes_eq_ok_iff list).mp worked
  obtain ⟨candidate, candidates, found⟩ := (Scan.mem_merged_violations_iff ..).mp member
  have shown := Scan.outcome_own _ _ _ _ _ found
  obtain ⟨text, _, found⟩ := (Scan.mem_outcome_violations_iff ..).mp found
  obtain ⟨names, location, bytes, visits, rfl, _⟩ :=
    (Scan.mem_candidates_iff _ _ opened _).mp candidates
  obtain ⟨index, line, _, which, rule, named, stretch, reported, same⟩ :=
    (Scan.mem_textViolations_iff ..).mp found
  obtain ⟨made, compiles, whole⟩ := (bind_eq_ok_iff ..).mp compiled
  cases whole
  obtain ⟨spec, given, made⟩ :=
    exists_item_at Rule.compile ((mapM_eq_ok_iff ..).mp compiles) which rule named
  have real := surroundings.tree.realFile_of_stands place names bytes
    (surroundings.tree.visits_file_ne_nil visits) (FileTree.stands_of_visits visits rfl).1
  refine ⟨spec, ?_, ?_, ⟨rule, line.toArray, made, List.ne_nil_of_mem reported⟩,
    place, names, bytes, opened, real, shown⟩
  · rw [same]
    exact given
  · rw [same]
    exact Rule.message_of_compile made

variable {tree : FileTree} {base : Location}

theorem Origin.pattern {violation : Violation} {spec : RuleSpec}
    (origin : Origin tree base settings violation spec) : spec.pattern ≠ "" := by
  obtain ⟨rule, line, compiled, reports⟩ := origin.reports
  intro empty
  exact reports (Rule.findIn_of_empty_pattern line compiled empty)

theorem Origin.blank_iff {violation : Violation} {spec : RuleSpec}
    (origin : Origin tree base settings violation spec) :
    Text.trim violation.message = "" ↔ ¬ spec.WellFormed := by
  rw [origin.told, iff_not_comm]
  constructor
  · exact RuleSpec.WellFormed.trim_report spec
  · intro told
    refine ⟨origin.pattern, ?_⟩
    intro message given
    rwa [RuleSpec.report, given] at told

/-- All rules are well-formed if there are rules among the arguments, or if those of the
configuration file are. A rule that is not well-formed finds nothing if it has no pattern, and else
reports a blank message wherever it finds something. -/
theorem wellFormed_by_source (surroundings : Surroundings) (overrides : Overrides)
    (settings : Settings)
    (resolved : Settings.resolve surroundings.tree surroundings.base surroundings.here overrides =
      .ok settings) :
    ∃ config, Settings.Sources surroundings.tree surroundings.base surroundings.here overrides
        settings.root settings.configPath config ∧
      ((∀ spec ∈ settings.rules, spec.WellFormed) ↔
        overrides.rules ≠ [] ∨ ∀ spec ∈ config.rules, spec.WellFormed) ∧
      ∀ result, (scan surroundings settings).2 = .ok result → ∀ violation ∈ result.violations,
        ∃ spec, settings.rules[violation.rule]? = some spec ∧ spec.pattern ≠ "" ∧
          (Text.trim violation.message = "" ↔ ¬ spec.WellFormed) := by
  obtain ⟨config, settled⟩ := Settings.settled_of_resolve settings resolved
  refine ⟨config, settled.sources, Settings.settled_wellFormed_iff settled, ?_⟩
  intro result scanned violation member
  obtain ⟨spec, origin⟩ := exists_origin scanned violation member
  exact ⟨spec, origin.named, origin.pattern, origin.blank_iff⟩

/-- A run in the root directory of a tree. -/
def atRoot (tree : FileTree) : Surroundings where
  tree := tree
  base := []
  here := [Path.slash]
  workers := .tasks
  texts := ⟨fun _ _ => "", fun _ => ""⟩
  coloursOff := true
  logFilter := none

theorem wellFormed_of_argument :
    ∃ settings, Settings.resolve .empty [] [Path.slash] { root := "/", rules := ["x"] } =
        .ok settings ∧
      ∃ config, Settings.Sources .empty [] [Path.slash] { root := "/", rules := ["x"] }
          settings.root settings.configPath config ∧
        ((∀ spec ∈ settings.rules, spec.WellFormed) ↔
          ["x"] ≠ [] ∨ ∀ spec ∈ config.rules, spec.WellFormed) ∧
        ∀ result, (scan (atRoot .empty) settings).2 = .ok result →
          ∀ violation ∈ result.violations,
            ∃ spec, settings.rules[violation.rule]? = some spec ∧ spec.pattern ≠ "" ∧
              (Text.trim violation.message = "" ↔ ¬ spec.WellFormed) := by
  have rules : Settings.rulesOf { root := "/", rules := ["x"] } {} = .ok [⟨"x", none, []⟩] := rfl
  have resolved := Settings.resolve_arguments .empty ["x"] none _
    (Config.find?_eq_none_of_bare (FileTree.endsAt_of_resolve _ (FileTree.resolve_slash _ []))
      fun _ _ => rfl) rules (List.cons_ne_nil _ _)
  exact ⟨_, resolved, wellFormed_by_source (atRoot .empty) _ _ resolved⟩

/-- With a rule that can report nothing a run passes. -/
theorem empty_pattern_passes :
    ∃ settings result,
      Settings.resolve (Config.onlyFile "[[rules]]\npattern=\"\"") [] [Path.slash]
          { root := "/" } = .ok settings ∧
        (∃ spec ∈ settings.rules, ¬ spec.WellFormed) ∧
          (scan (atRoot (Config.onlyFile "[[rules]]\npattern=\"\"")) settings).2 = .ok result ∧
            result.violations = [] := by
  have read : Config.Format.toml.read? "[[rules]]\npattern=\"\"" =
      some { rules := [⟨"", none, []⟩] } := by decide +kernel
  have resolved := Settings.resolve_onlyFile _ _ read (by simp)
  obtain ⟨filter, filtered⟩ := (filterOf_passes_iff (Settings.assemble { root := "/" }
    { rules := [⟨"", none, []⟩] } [Path.slash] (Text.raw "/lintcheck.toml") .human
      [⟨"", none, []⟩])).mpr ⟨List.forall_mem_nil _, List.forall_mem_nil _⟩
  have opened := FileTree.resolve_slash (Config.onlyFile "[[rules]]\npattern=\"\"") []
  have scanned := (scan_of_inputs (atRoot (Config.onlyFile _)) _ filter _ filtered rfl).trans
    (Scan.scan_of_directory opened (Scan.Workers.ready_none _))
  refine ⟨_, _, resolved, ⟨_, List.mem_singleton_self _, fun formed => formed.pattern rfl⟩,
    scanned, ?_⟩
  refine List.eq_nil_iff_forall_not_mem.mpr fun violation member => ?_
  obtain ⟨spec, origin⟩ := exists_origin scanned violation member
  have given := List.mem_of_getElem? origin.named
  rw [List.mem_singleton.mp given] at origin
  exact origin.pattern rfl

end Run

end PatternLint
