import PatternLint.Proofs.Config.Keys
import PatternLint.Proofs.Settings.Precedence

/-!
Where the root of a run and its configuration file are found. A directory is a root as soon as the
name of a configuration file leads somewhere in it, but only a file can be read. So a directory of
such a name makes a root without a configuration.
-/

namespace PatternLint.Config

section

variable (tree : FileTree) (base : Location)

structure Nearest (start root : RawText) : Prop where
  first : ∃ below above, Path.chain start = below ++ root :: above ∧
    ∀ dir ∈ below, isMarked tree base dir = false
  marked : isMarked tree base root = true

def Unmarked (start : RawText) : Prop :=
  ∀ dir ∈ Path.chain start, isMarked tree base dir = false

/-- Names of configuration files lead somewhere in the directory, but none of them to a file. -/
structure Obstructed (dir : RawText) : Prop where
  present : ∃ name ∈ fileNames, tree.leads base (Path.join dir name) = true
  unusable : ∀ name ∈ fileNames, tree.leadsToFile base (Path.join dir name) = false

/-- The root that is found has a configuration file, or it is the start for want of any mark. -/
def RootServes (start : RawText) : Prop :=
  find? tree base (detectRoot tree base start) ≠ none ∨
    Unmarked tree base start ∧ detectRoot tree base start = start

end

variable {tree : FileTree} {base : Location} {start : RawText}

theorem leads_of_leadsToFile {path : RawText} (file : tree.leadsToFile base path = true) :
    tree.leads base path = true := by
  unfold FileTree.leadsToFile at file
  split at file
  · rename_i location bytes found
    rw [FileTree.leads, found]
    rfl
  · cases file

theorem isMarked_iff (dir : RawText) :
    isMarked tree base dir = true ↔
      (∃ name ∈ fileNames, tree.leads base (Path.join dir name) = true) ∨
        tree.leads base (Path.join dir (Text.raw ".git")) = true := by
  simp only [isMarked, markers, List.any_append, Bool.or_eq_true, List.any_eq_true, List.any_cons,
    List.any_nil, Bool.or_false]

theorem mem_chain_self (start : RawText) : start ∈ Path.chain start := by
  rw [Path.chain]
  exact List.mem_cons_self

theorem detectRoot_cases (tree : FileTree) (base : Location) (start : RawText) :
    Nearest tree base start (detectRoot tree base start) ∨
      Unmarked tree base start ∧ detectRoot tree base start = start := by
  unfold detectRoot
  cases found : (Path.chain start).find? (isMarked tree base) with
  | some root =>
    obtain ⟨marked, below, above, parts, unmarked⟩ := List.find?_eq_some_iff_append.mp found
    refine .inl ⟨⟨below, above, parts, ?_⟩, marked⟩
    simpa using unmarked
  | none =>
    refine .inr ⟨?_, rfl⟩
    intro dir member
    simpa using List.find?_eq_none.mp found dir member

theorem Unmarked.not_marked {dir : RawText} (unmarked : Unmarked tree base start)
    (onWay : dir ∈ Path.chain start) : ¬ isMarked tree base dir = true := by
  rw [unmarked dir onWay]
  exact Bool.false_ne_true

theorem Nearest.not_unmarked {root : RawText} (nearest : Nearest tree base start root) :
    ¬ Unmarked tree base start := by
  obtain ⟨below, above, parts, _⟩ := nearest.first
  have onWay : root ∈ Path.chain start := by simp [parts]
  intro unmarked
  exact unmarked.not_marked onWay nearest.marked

theorem find?_of_obstructed {dir : RawText} (obstructed : Obstructed tree base dir) :
    find? tree base dir = none :=
  find?_eq_none_iff.mpr obstructed.unusable

theorem Unmarked.find? (unmarked : Unmarked tree base start) : find? tree base start = none := by
  rw [find?_eq_none_iff]
  intro name member
  by_contra file
  have leads := leads_of_leadsToFile (Bool.not_eq_false _ ▸ file)
  apply unmarked.not_marked (mem_chain_self start)
  exact (isMarked_iff start).mpr (.inl ⟨name, member, leads⟩)

/-- A marked directory without version control has a configuration file, unless it is obstructed. -/
theorem find?_eq_none_iff_obstructed {dir : RawText} (marked : isMarked tree base dir = true)
    (plain : tree.leads base (Path.join dir (Text.raw ".git")) = false) :
    find? tree base dir = none ↔ Obstructed tree base dir := by
  constructor
  · intro none
    refine ⟨?_, find?_eq_none_iff.mp none⟩
    rcases (isMarked_iff dir).mp marked with config | git
    · exact config
    · rw [plain] at git
      cases git
  · exact find?_of_obstructed

theorem not_obstructed_of_unmarked (unmarked : Unmarked tree base start) :
    ¬ Obstructed tree base start := by
  intro obstructed
  apply unmarked.not_marked (mem_chain_self start)
  exact (isMarked_iff start).mpr (.inl obstructed.present)

theorem rootServes_iff
    (plain : tree.leads base (Path.join (detectRoot tree base start) (Text.raw ".git")) = false) :
    RootServes tree base start ↔ ¬ Obstructed tree base (detectRoot tree base start) := by
  rcases detectRoot_cases tree base start with nearest | ⟨unmarked, same⟩
  · rw [← find?_eq_none_iff_obstructed nearest.marked plain]
    exact or_iff_left fun serves => nearest.not_unmarked serves.1
  · rw [same]
    exact iff_of_true (.inr ⟨unmarked, same⟩) (not_obstructed_of_unmarked unmarked)

end PatternLint.Config

namespace PatternLint.Settings

open Config (RootServes Obstructed Unmarked detectRoot)

variable {tree : FileTree} {base : Location} {start : RawText} {overrides : Overrides}
  {settings : Settings}

theorem located_of_resolve (noRoot : overrides.root = none) (noConfig : overrides.config = none)
    (resolved : resolve tree base start overrides = .ok settings) :
    settings.root = detectRoot tree base start ∧
      settings.configPath = Config.find? tree base settings.root := by
  obtain ⟨config, settled⟩ := settled_of_resolve settings resolved
  have located := (located_iff _ _).mp settled.sources.located
  rw [noRoot, noConfig] at located
  exact ⟨located.1.symm, located.2⟩

/-- Where the root that is found has no version control, it has a configuration file unless nothing
is marked, or unless its configuration files are obstructed. Only then does a run that is told
neither the root nor the file go without one. -/
theorem root_serves_unless_obstructed (tree : FileTree) (base : Location) (start : RawText)
    (plain : tree.leads base (Path.join (detectRoot tree base start) (Text.raw ".git")) = false) :
    (RootServes tree base start ↔ ¬ Obstructed tree base (detectRoot tree base start)) ∧
      ∀ overrides settings, overrides.root = none → overrides.config = none →
        resolve tree base start overrides = .ok settings →
          settings.root = detectRoot tree base start ∧
            (settings.configPath = none ↔
              Unmarked tree base start ∨ Obstructed tree base settings.root) := by
  refine ⟨Config.rootServes_iff plain, ?_⟩
  intro overrides settings noRoot noConfig resolved
  obtain ⟨root, configPath⟩ := located_of_resolve noRoot noConfig resolved
  refine ⟨root, ?_⟩
  rw [configPath, root]
  rcases Config.detectRoot_cases tree base start with nearest | ⟨unmarked, same⟩
  · rw [Config.find?_eq_none_iff_obstructed nearest.marked plain]
    exact (or_iff_right nearest.not_unmarked).symm
  · rw [same]
    exact iff_of_true unmarked.find? (.inl unmarked)

def sub : FileName := ⟨Text.raw "sub", by decide +kernel⟩

def project : FileTree where
  entries := [([sub], .directory),
    ([Config.firstName], .file "preset = \"nohttp\"".toUTF8)]
  distinct := by decide
  closed := by decide

theorem resolve_sub {tree : FileTree} (stands : tree.stands? [sub] = some .directory) :
    tree.resolve [] (Text.raw "/sub") = .ok (.directory [sub]) := by
  have path : Path.join [Path.slash] sub.bytes = Text.raw "/sub" := by decide +kernel
  rw [← path]
  exact tree.resolve_join (tree.resolve_slash []) sub _
    (.directory 0 [] sub [] _ stands (.arrived [sub])) (by decide +kernel)

theorem root_serves_project : RootServes project [] (Text.raw "/sub") := by
  have inside := project.endsAt_of_resolve (resolve_sub rfl)
  have bare : ∀ name ∈ [Config.firstName, Config.secondName, Config.thirdName, Config.gitName],
      project.stands? [sub, name] = none := by
    simp only [List.forall_mem_cons, List.not_mem_nil, false_imp_iff, implies_true, and_true]
    exact ⟨rfl, rfl, rfl, rfl⟩
  have unmarked : Config.isMarked project [] (Text.raw "/sub") = false :=
    Config.isMarked_eq_false_iff.mpr fun name member =>
      project.leads_join_eq_false inside name (bare name member)
  have marked : Config.isMarked project [] [Path.slash] = true :=
    Config.isMarked_of_leads Config.firstName (by decide +kernel)
      (project.leads_of_resolve (Config.resolve_firstName rfl))
  have root : detectRoot project [] (Text.raw "/sub") = [Path.slash] :=
    Config.detectRoot_of_parent (by decide +kernel) unmarked marked
  have plain : project.leads [] (Path.join [Path.slash] (Text.raw ".git")) = false :=
    project.leads_join_eq_false (project.endsAt_of_resolve (project.resolve_slash []))
      Config.gitName rfl
  have file : Config.find? project [] [Path.slash] = some (Text.raw "/lintcheck.toml") :=
    Config.find?_firstName rfl
  rw [← root] at plain file
  refine (root_serves_unless_obstructed project [] _ plain).1.mpr fun obstructed => ?_
  rw [Config.find?_of_obstructed obstructed] at file
  cases file

def obstructedProject : FileTree :=
  project.put [sub, Config.firstName] .directory

/-- The directory takes the place of the configuration file above it. -/
theorem directory_hides_config :
    obstructedProject.leads []
        (Path.join (detectRoot obstructedProject [] (Text.raw "/sub")) (Text.raw ".git")) = false ∧
      ¬ RootServes obstructedProject [] (Text.raw "/sub") ∧
      Config.find? obstructedProject [] [Path.slash] = some (Text.raw "/lintcheck.toml") := by
  have opened : obstructedProject.resolve [] (Text.raw "/sub") = .ok (.directory [sub]) :=
    resolve_sub rfl
  have inside := obstructedProject.endsAt_of_resolve opened
  have taken : obstructedProject.resolve [] (Path.join (Text.raw "/sub") Config.firstName.bytes) =
      .ok (.directory [sub, Config.firstName]) :=
    obstructedProject.resolve_join opened _ _
      (.directory 0 [sub] Config.firstName [] _ rfl (.arrived _)) (by decide +kernel)
  have marked : Config.isMarked obstructedProject [] (Text.raw "/sub") = true :=
    Config.isMarked_of_leads Config.firstName (by decide +kernel)
      (obstructedProject.leads_of_resolve taken)
  have plain : obstructedProject.leads [] (Path.join (Text.raw "/sub") (Text.raw ".git")) = false :=
    obstructedProject.leads_join_eq_false inside Config.gitName rfl
  have absent : ∀ name ∈ [Config.secondName, Config.thirdName],
      obstructedProject.stands? [sub, name] = none := by
    simp only [List.forall_mem_cons, List.not_mem_nil, false_imp_iff, implies_true, and_true]
    exact ⟨rfl, rfl⟩
  have none : Config.find? obstructedProject [] (Text.raw "/sub") = none := by
    have names : Config.fileNames =
        Config.firstName.bytes :: [Config.secondName, Config.thirdName].map FileName.bytes := rfl
    rw [Config.find?_eq_none_iff, names, List.forall_mem_cons, List.forall_mem_map]
    refine ⟨by rw [FileTree.leadsToFile, taken], fun name member => ?_⟩
    apply obstructedProject.leadsToFile_eq_false_of_leads
    exact obstructedProject.leads_join_eq_false inside name (absent name member)
  rw [RootServes, Config.detectRoot_of_marked marked]
  refine ⟨plain, ?_, Config.find?_firstName rfl⟩
  rintro (found | ⟨unmarked, _⟩)
  · exact found none
  · exact unmarked.not_marked (Config.mem_chain_self _) marked

end PatternLint.Settings
