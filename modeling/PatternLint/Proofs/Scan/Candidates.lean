import PatternLint.Proofs.FileTree.Walk
import PatternLint.Proofs.PathFilter.Pruning
import PatternLint.Scan.Tree

namespace PatternLint

namespace FileTree

variable {tree : FileTree} {followLinks : Bool} {prunes opens : List FileName → Prop}
  {entered : List Location} {place : Location} {above names : List FileName} {found : Found}

theorem visits_congr_prunes {other : List FileName → Prop}
    (same : ∀ names, names ≠ [] → (prunes names ↔ other names))
    (visits : Visits tree followLinks prunes opens entered place above names found) :
    Visits tree followLinks other opens entered place above names found := by
  induction visits with
  | arrived => exact .arrived _ _ _
  | file _ _ _ _ _ _ opened shows => exact .file _ _ _ _ _ _ opened shows
  | down _ _ _ above name _ _ opened enters kept _ ih =>
    exact .down _ _ _ _ _ _ _ opened enters ((not_congr (same _ (by simp))).mp kept) ih

theorem isText_of_visits (texts : ∀ item ∈ tree.entries, ∀ name ∈ item.1, IsText name)
    (visits : Visits tree followLinks prunes opens entered place above names found) :
    ∀ name ∈ names, IsText name := by
  have child : ∀ (place : Location) (name : FileName) (entry : Entry),
      tree.stands? (place ++ [name]) = some entry → IsText name := by
    intro place name entry stands
    exact texts _ (tree.mem_entries_of_stands _ entry (by simp) stands) name (by simp)
  induction visits with
  | arrived => exact List.forall_mem_nil _
  | file _ _ _ name _ _ _ shows =>
    obtain ⟨entry, stands⟩ := stands_of_showsFile shows
    exact List.forall_mem_singleton.mpr (child _ name entry stands)
  | down _ _ _ _ name _ _ _ enters _ _ ih =>
    obtain ⟨entry, stands⟩ := stands_of_enters enters
    exact List.forall_mem_cons.mpr ⟨child _ name entry stands, ih⟩

end FileTree

namespace Scan

open FileTree (Visits Openable namesText pathBelow IsText)

/-- The filter passes over the directory with these names. -/
def PassesOver (filter : PathFilter) (names : List FileName) : Prop :=
  filter.prunesDir (Text.encode (namesText names)) = true

/-- No file below a directory that is passed over is to be scanned. -/
theorem isIncluded_below_names (filter : PathFilter) (names rest : List FileName)
    (pruned : PassesOver filter names) (more : rest ≠ []) :
    filter.isIncluded (Text.encode (namesText (names ++ rest))) = false := by
  have given : names ≠ [] := by
    intro empty
    subst empty
    exact filter.ne_nil_of_prunesDir _ pruned rfl
  apply filter.isIncluded_below_pruned _ _ (namesText rest) pruned
  rw [FileTree.normalize_namesText, FileTree.normalize_namesText,
    FileTree.namesText_append names rest given more]

theorem raw_shownPath (root : RawText) (names : List FileName) (given : root ≠ [])
    (more : names ≠ []) :
    Text.raw (shownPath root (pathBelow root names)) = Text.encode (namesText names) := by
  rw [shownPath, (FileTree.relative_pathBelow root names given more).2, Text.raw,
    String.toList_ofList]

variable (tree : FileTree) (base : Location) (root : RawText) (filter : PathFilter)
  (followLinks : Bool)

theorem candidates_eq_filter_walk :
    candidates tree base root filter followLinks =
      ((FileTree.filesOf (tree.walk base followLinks (fun _ => false) [root] root)).map fun path =>
        ⟨path, shownPath root path⟩).filter fun candidate : Candidate =>
          filter.isIncluded (Text.raw candidate.shown) := by
  unfold candidates Scan.walk
  rw [List.filter_map, List.filter_map]
  refine congrArg _ ?_
  by_cases given : root = []
  · have nowhere : ∀ place, tree.resolve base root ≠ .ok (.directory place) :=
      fun place opened => tree.ne_nil_of_resolve opened given
    have none := fun prunes =>
      tree.filesOf_walk_of_unopened base followLinks prunes [root] root nowhere
    exact congrArg _ ((none _).trans (none _).symm)
  · refine tree.filter_filesOf_walk base followLinks _ root _ ?_ [root] []
    intro names rest filled pruned more
    rw [raw_shownPath root names given filled] at pruned
    simp only [Function.comp_apply]
    rw [raw_shownPath root _ given (by simp [filled])]
    exact isIncluded_below_names filter names rest pruned more

variable {tree base root} {place : Location}

theorem trail_start (opened : tree.resolve base root = .ok (.directory place)) :
    FileTree.Trail tree base root [root] [place] where
  ends := .cons (tree.endsAt_of_resolve opened) .nil
  opened := fun _ member => .inl (List.mem_singleton.mp member)

theorem mem_filter_walk_iff (opened : tree.resolve base root = .ok (.directory place))
    (prunes : RawText → Bool) (candidate : Candidate) :
    candidate ∈ ((FileTree.filesOf (tree.walk base followLinks prunes [root] root)).map fun path =>
        ⟨path, shownPath root path⟩).filter (fun candidate : Candidate =>
          filter.isIncluded (Text.raw candidate.shown)) ↔
      ∃ names location bytes,
        Visits tree followLinks (fun names => prunes (pathBelow root names) = true)
            (fun names => Openable tree base (pathBelow root names)) [place] place [] names
            (.file location bytes) ∧
          candidate = ⟨pathBelow root names, String.ofList (namesText names)⟩ ∧
          filter.isIncluded (Text.encode (namesText names)) = true := by
  have given := tree.ne_nil_of_resolve opened
  have found := fun file => tree.mem_walk_iff base followLinks prunes root [root] [place] place []
    file (tree.endsAt_of_resolve opened) (trail_start opened)
  have shown : ∀ names, names ≠ [] →
      shownPath root (pathBelow root names) = String.ofList (namesText names) := fun names filled =>
    congrArg String.ofList (FileTree.relative_pathBelow root names given filled).2
  simp only [List.mem_filter, List.mem_map]
  constructor
  · rintro ⟨⟨file, member, rfl⟩, included⟩
    obtain ⟨names, location, bytes, rfl, visits⟩ :=
      (found file).mp ((FileTree.mem_filesOf_iff _ _).mp member)
    have filled := tree.visits_file_ne_nil visits
    rw [List.nil_append] at included ⊢
    refine ⟨names, location, bytes, visits, ?_, ?_⟩
    · rw [shown names filled]
    · rwa [raw_shownPath root names given filled] at included
  · rintro ⟨names, location, bytes, visits, rfl, included⟩
    have filled := tree.visits_file_ne_nil visits
    refine ⟨⟨pathBelow root names, (FileTree.mem_filesOf_iff _ _).mpr ((found _).mpr ?_), ?_⟩, ?_⟩
    · exact ⟨names, location, bytes, rfl, visits⟩
    · rw [shown names filled]
    · rwa [Text.raw, String.toList_ofList]

theorem mem_candidates_iff (opened : tree.resolve base root = .ok (.directory place))
    (candidate : Candidate) :
    candidate ∈ candidates tree base root filter followLinks ↔
      ∃ names location bytes,
        Visits tree followLinks (PassesOver filter)
            (fun names => Openable tree base (pathBelow root names)) [place] place [] names
            (.file location bytes) ∧
          candidate = ⟨pathBelow root names, String.ofList (namesText names)⟩ ∧
          filter.isIncluded (Text.encode (namesText names)) = true := by
  have passes : ∀ names, names ≠ [] →
      (filter.prunesDir (Text.raw (shownPath root (pathBelow root names))) = true ↔
        PassesOver filter names) := by
    intro names filled
    rw [raw_shownPath root names (tree.ne_nil_of_resolve opened) filled, PassesOver]
  have same : ∀ names found,
      Visits tree followLinks
          (fun names => filter.prunesDir (Text.raw (shownPath root (pathBelow root names))) = true)
          (fun names => Openable tree base (pathBelow root names)) [place] place [] names found ↔
        Visits tree followLinks (PassesOver filter)
          (fun names => Openable tree base (pathBelow root names)) [place] place [] names found :=
    fun names found => ⟨FileTree.visits_congr_prunes passes,
      FileTree.visits_congr_prunes fun names filled => (passes names filled).symm⟩
  simp only [← same]
  exact mem_filter_walk_iff filter followLinks opened _ candidate

theorem paths_nodup (tree : FileTree) (base : Location) (root : RawText) :
    ((candidates tree base root filter followLinks).map Candidate.path).Nodup := by
  have files := tree.filesOf_walk_nodup base followLinks
    (fun path => filter.prunesDir (Text.raw (shownPath root path))) [root] root
  refine List.Nodup.sublist (List.filter_sublist.map Candidate.path) ?_
  rw [List.map_map]
  exact (List.map_id _).symm ▸ files

theorem shown_nodup (tree : FileTree) (base : Location) (root : RawText)
    (texts : ∀ item ∈ tree.entries, ∀ name ∈ item.1, IsText name) :
    ((candidates tree base root filter followLinks).map Candidate.shown).Nodup := by
  have distinct := List.Nodup.of_map _ (paths_nodup filter followLinks tree base root)
  by_cases opened : ∃ place, tree.resolve base root = .ok (.directory place)
  · obtain ⟨place, opened⟩ := opened
    refine distinct.map_on ?_
    intro one first other second same
    obtain ⟨names, _, _, visits, rfl, _⟩ :=
      (mem_candidates_iff filter followLinks opened one).mp first
    obtain ⟨others, _, _, also, rfl, _⟩ :=
      (mem_candidates_iff filter followLinks opened other).mp second
    rw [FileTree.eq_of_namesText names others (FileTree.isText_of_visits texts visits)
      (FileTree.isText_of_visits texts also) (String.ofList_injective same)]
  · have none := tree.filesOf_walk_of_unopened base followLinks
      (fun path => filter.prunesDir (Text.raw (shownPath root path))) [root] root
      (not_exists.mp opened)
    have empty : candidates tree base root filter followLinks = [] := by
      rw [candidates, Scan.walk]
      exact congrArg (fun files => List.filter _ (List.map _ files)) none
    rw [empty]
    exact .nil

/-- Where a directory is passed over no path below it is to be scanned, so a walk that enters every
directory keeps the same files in the same order. -/
theorem pruning_loses_nothing (filter : PathFilter) :
    (∀ dir path : RawText, filter.prunesDir dir = true → path ≠ [] →
        Path.isAbsolute path = false → (Path.components path).head? ≠ some .here →
          filter.isIncluded (Path.join dir path) = false) ∧
      ∀ (tree : FileTree) (base : Location) (root : RawText) (followLinks : Bool),
        candidates tree base root filter followLinks =
          ((FileTree.filesOf (tree.walk base followLinks (fun _ => false) [root] root)).map
            fun path => ⟨path, shownPath root path⟩).filter fun candidate : Candidate =>
              filter.isIncluded (Text.raw candidate.shown) := by
  constructor
  · intro dir path pruned more relative ordinary
    exact filter.isIncluded_join_pruned dir path pruned more relative ordinary
  · intro tree base root followLinks
    exact candidates_eq_filter_walk tree base root filter followLinks

def gitFilter : PathFilter where
  includes := []
  excludes :=
    [⟨".git/**", [.literal '.', .literal 'g', .literal 'i', .literal 't', .literal '/', .tree]⟩]

theorem pruning_of_git :
    gitFilter.prunesDir (Text.raw ".git") = true ∧
      gitFilter.isIncluded (Path.join (Text.raw ".git") (Text.raw "HEAD")) = false := by
  have pruned : gitFilter.prunesDir (Text.raw ".git") = true := by decide +kernel
  refine ⟨pruned, ?_⟩
  apply (pruning_loses_nothing gitFilter).1 _ _ pruned
  · decide
  · decide
  · decide +kernel

end Scan

end PatternLint
