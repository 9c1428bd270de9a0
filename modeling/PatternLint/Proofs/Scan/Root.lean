import PatternLint.Proofs.Scan.Report

/-!
A scan and the path of its root. However the root is written, the result is the same as long as all
that there is to find can be opened, since files are told of by their names below it; and under such
a path, joined to the root, the file is found.
-/

namespace PatternLint.Scan

open FileTree (Visits Reaches Openable Unhindered EndsAt SameBelow IsText namesText pathBelow)

structure SameReport (one other : Outcome) : Prop where
  violations : one.violations = other.violations
  scanned : one.isScanned = other.isScanned
  skipped : one.skipped? = other.skipped?

theorem merge_congr {list others : List Outcome} (same : List.Forall₂ SameReport list others) :
    merge list = merge others := by
  have lists : list.flatMap Outcome.violations = others.flatMap Outcome.violations ∧
      (list.filter Outcome.isScanned).length = (others.filter Outcome.isScanned).length ∧
      list.filterMap Outcome.skipped? = others.filterMap Outcome.skipped? := by
    induction same with
    | nil => exact ⟨rfl, rfl, rfl⟩
    | cons head _ ih =>
      obtain ⟨violations, scanned, skipped⟩ := ih
      rw [List.flatMap_cons, List.flatMap_cons, head.violations, violations, List.filter_cons,
        List.filter_cons, head.scanned, List.filterMap_cons, List.filterMap_cons, head.skipped,
        skipped]
      refine ⟨rfl, ?_, rfl⟩
      split
      · exact congrArg Nat.succ scanned
      · exact scanned
  obtain ⟨violations, scanned, skipped⟩ := lists
  simp only [merge, violations, scanned, skipped]

theorem sameReport_of_read {tree : FileTree} {base elsewhere : Location} (rules : RuleSet)
    (one other : Candidate) (shown : one.shown = other.shown)
    (reads : tree.read base one.path = tree.read elsewhere other.path) :
    SameReport (outcome tree base rules one) (outcome tree elsewhere rules other) := by
  have texts : readText tree base one.path = readText tree elsewhere other.path := by
    rw [readText, readText, reads]
  unfold outcome
  rw [texts, shown]
  cases readText tree elsewhere other.path with
  | ok text => exact ⟨rfl, rfl, rfl⟩
  | error fault => exact ⟨rfl, rfl, by rw [Outcome.skipped?, Outcome.skipped?, shown]⟩

section Roots

variable {tree : FileTree} {base elsewhere : Location} {root other : RawText} {place : Location}
  {filter : PathFilter} {followLinks : Bool}

theorem passesOver_iff (given : root ≠ []) (names : List FileName) (filled : names ≠ []) :
    filter.prunesDir (Text.raw (shownPath root (pathBelow root names))) = true ↔
      PassesOver filter names := by
  rw [raw_shownPath root names given filled, PassesOver]

variable (opened : tree.resolve base root = .ok (.directory place))
  (also : tree.resolve elsewhere other = .ok (.directory place))
  (free : Unhindered tree base followLinks (PassesOver filter) root place)
  (unhindered : Unhindered tree elsewhere followLinks (PassesOver filter) other place)

include opened also free unhindered

theorem filesOf_walk_same_roots :
    List.Forall₂ (SameBelow root other)
      (FileTree.filesOf (Scan.walk tree base root filter followLinks))
      (FileTree.filesOf (Scan.walk tree elsewhere other filter followLinks)) := by
  have given := tree.ne_nil_of_resolve opened
  have more := tree.ne_nil_of_resolve also
  refine FileTree.filesOf_walk_same root other ?_ [root] [other] [place] place []
    (tree.endsAt_of_resolve opened) (tree.endsAt_of_resolve also) (trail_start opened)
    (trail_start also) ?_
  · intro names filled
    rw [raw_shownPath root names given filled, raw_shownPath other names more filled]
  · intro names found reaches
    have plain := FileTree.visits_congr_prunes (passesOver_iff given) reaches
    exact ⟨free names found plain, unhindered names found plain⟩

theorem candidates_same :
    List.Forall₂ (fun one two => one.shown = two.shown ∧ SameBelow root other one.path two.path)
      (candidates tree base root filter followLinks)
      (candidates tree elsewhere other filter followLinks) := by
  refine List.rel_filter (fun one two same => ?_) ?_
  · exact Iff.of_eq (congrArg (fun shown => filter.isIncluded (Text.raw shown) = true) same.1)
  rw [List.forall₂_map_left_iff, List.forall₂_map_right_iff]
  refine (filesOf_walk_same_roots opened also free unhindered).imp ?_
  intro path again same
  refine ⟨?_, same⟩
  obtain ⟨names, filled, rfl, rfl⟩ := same
  have given := tree.ne_nil_of_resolve opened
  have more := tree.ne_nil_of_resolve also
  rw [shownPath, shownPath, (FileTree.relative_pathBelow root names given filled).2,
    (FileTree.relative_pathBelow other names more filled).2]

omit also unhindered in
theorem read_of_visits {names : List FileName} {location : Location} {bytes : ByteArray}
    (reaches : Reaches tree followLinks (PassesOver filter) [place] place [] names
      (.file location bytes)) : tree.read base (pathBelow root names) = .ok bytes := by
  have start : EndsAt tree base (pathBelow root []) (.directory place) :=
    tree.endsAt_of_resolve opened
  have ends := tree.endsAt_of_visits base start reaches
  exact (tree.read_eq_ok_iff base _ bytes).mpr
    ⟨location, tree.resolve_of_endsAt (free names _ reaches) ends⟩

theorem merge_same_roots (rules : RuleSet) :
    merge ((candidates tree base root filter followLinks).map (outcome tree base rules)) =
      merge ((candidates tree elsewhere other filter followLinks).map
        (outcome tree elsewhere rules)) := by
  apply merge_congr
  rw [List.forall₂_map_left_iff, List.forall₂_map_right_iff]
  have listed := (List.forall₂_and_left _ _).mpr ⟨fun candidate member => member,
    candidates_same opened also free unhindered⟩
  refine listed.imp ?_
  rintro one two ⟨member, shown, again, filled, first, second⟩
  obtain ⟨names, location, bytes, visits, rfl, _⟩ :=
    (mem_candidates_iff filter followLinks opened one).mp member
  have same := FileTree.pathBelow_injective (tree.ne_nil_of_resolve opened)
    (tree.visits_file_ne_nil visits) filled first
  subst same
  have reaches := FileTree.reaches_of_visits visits
  refine sameReport_of_read rules _ two shown ?_
  rw [second, read_of_visits opened free reaches, read_of_visits also unhindered reaches]

end Roots

/-- A path as it is reported: parts with single slashes between them, none of which is empty or
made of dots only, for the names that lead from the root to the file that was read. Where these are
texts the path is that of the file, once it is joined to the root. -/
structure Tells (tree : FileTree) (base : Location) (root : RawText) (path : String)
    (names : List FileName) (bytes : ByteArray) : Prop where
  filled : path ≠ ""
  relative : Path.isAbsolute (Text.raw path) = false
  plain : ∀ piece ∈ Text.pieces '/' path.toList, piece ≠ [] ∧ piece ≠ ['.'] ∧ piece ≠ ['.', '.']
  shown : path = String.ofList (namesText names)
  read : tree.read base (pathBelow root names) = .ok bytes
  joined : (∀ name ∈ names, IsText name) →
    Path.join root (Text.raw path) = pathBelow root names

theorem scan_same_roots {tree : FileTree} {base elsewhere : Location} {workers : Workers}
    {root other : RawText} {filter : PathFilter} {rules : RuleSet} {options : Options}
    {place : Location} (opened : tree.resolve base root = .ok (.directory place))
    (also : tree.resolve elsewhere other = .ok (.directory place))
    (merged : merge ((candidates tree base root filter options.followLinks).map
        (outcome tree base rules)) =
      merge ((candidates tree elsewhere other filter options.followLinks).map
        (outcome tree elsewhere rules))) :
    scan tree base workers root filter rules options =
      scan tree elsewhere workers other filter rules options := by
  cases scanned : scan tree base workers root filter rules options with
  | ok result =>
    obtain ⟨list, worked, rfl⟩ := (scan_eq_ok_iff result).mp scanned
    obtain ⟨_, ready, rfl⟩ := (outcomes_eq_ok_iff list).mp worked
    rw [scan_of_directory also ready, merged]
  | error error =>
    symm
    rcases (scan_eq_error_iff error).mp scanned with ⟨fault, unusable, _⟩ | ⟨_, pool⟩
    · rw [(tree.resolveDirectory_eq_ok_iff base root place).mpr opened] at unusable
      cases unusable
    · exact (scan_eq_error_iff error).mpr (.inr ⟨⟨place, also⟩, pool⟩)

theorem tells_of_visits {tree : FileTree} {base : Location} {root : RawText} {place : Location}
    {filter : PathFilter} {followLinks : Bool}
    (opened : tree.resolve base root = .ok (.directory place))
    (free : Unhindered tree base followLinks (PassesOver filter) root place)
    (names : List FileName) (location : Location) (bytes : ByteArray)
    (reaches : Reaches tree followLinks (PassesOver filter) [place] place [] names
      (.file location bytes)) :
    Tells tree base root (String.ofList (namesText names)) names bytes := by
  have more := tree.visits_file_ne_nil reaches
  constructor
  case filled =>
    intro empty
    exact FileTree.namesText_ne_nil names more (String.ofList_injective empty)
  case relative =>
    rw [Text.raw, String.toList_ofList]
    exact FileTree.isAbsolute_namesText names
  case plain =>
    intro piece member
    rw [String.toList_ofList, FileTree.pieces_namesText names more] at member
    obtain ⟨name, _, rfl⟩ := List.mem_map.mp member
    have shown := (FileTree.isName_fileName name).shown
    exact ⟨fun same => shown.filled (congrArg Text.encode same),
      fun same => shown.notHere (congrArg Text.encode same),
      fun same => shown.notUp (congrArg Text.encode same)⟩
  case shown => rfl
  case read => exact read_of_visits opened free reaches
  case joined =>
    intro texts
    rw [Text.raw, String.toList_ofList, ← FileTree.namesPath_of_texts names texts,
      FileTree.pathBelow_eq_join root names (tree.ne_nil_of_resolve opened) more]

/-- Two paths of one directory give one result where nothing hinders a walk under either, and a file
below it is told of by the names that lead to it. The path of such a file begins with the root as
it is written, so it is never told whole. -/
theorem result_of_any_root (tree : FileTree) (base elsewhere : Location) (workers : Workers)
    (root other : RawText) (filter : PathFilter) (rules : RuleSet) (options : Options)
    (place : Location) (opened : tree.resolve base root = .ok (.directory place))
    (also : tree.resolve elsewhere other = .ok (.directory place))
    (free : Unhindered tree base options.followLinks (PassesOver filter) root place)
    (unhindered : Unhindered tree elsewhere options.followLinks (PassesOver filter) other place) :
    (∀ names : List FileName, names ≠ [] →
      Path.components root <+: Path.components (pathBelow root names) ∧
        Path.relative root (pathBelow root names) = namesText names) ∧
      scan tree base workers root filter rules options =
        scan tree elsewhere workers other filter rules options ∧
      (workers.Ready options.threads →
        ∃ result, scan tree base workers root filter rules options = .ok result) ∧
      ∀ result, scan tree base workers root filter rules options = .ok result →
        (∀ violation ∈ result.violations, ∃ names, ∃ text : String,
          Tells tree base root violation.path names text.toUTF8 ∧
            violation ∈ textViolations violation.path rules text) ∧
        ∀ skipped ∈ result.skipped, ∃ names bytes,
          Tells tree base root skipped.path names bytes ∧ ∀ text : String, text.toUTF8 ≠ bytes := by
  have given := tree.ne_nil_of_resolve opened
  refine ⟨fun names => FileTree.relative_pathBelow root names given, ?_, ?_, ?_⟩
  · exact scan_same_roots opened also (merge_same_roots opened also free unhindered rules)
  · exact fun ready => ⟨_, scan_of_directory opened ready⟩
  · intro result scanned
    obtain ⟨list, worked, rfl⟩ := (scan_eq_ok_iff result).mp scanned
    obtain ⟨_, _, rfl⟩ := (outcomes_eq_ok_iff list).mp worked
    constructor
    · intro violation found
      obtain ⟨candidate, member, found⟩ := (mem_merged_violations_iff ..).mp found
      have path := outcome_own tree base rules candidate violation found
      obtain ⟨text, reads, found⟩ := (mem_outcome_violations_iff tree base rules _ _).mp found
      obtain ⟨names, location, bytes, visits, rfl, _⟩ :=
        (mem_candidates_iff filter _ opened candidate).mp member
      have tells := tells_of_visits opened free names location bytes
        (FileTree.reaches_of_visits visits)
      rw [tells.read] at reads
      injection reads with same
      subst same
      exact ⟨names, text, path ▸ tells, path ▸ found⟩
    · intro skipped missed
      obtain ⟨candidate, member, missed⟩ := (mem_merged_skipped_iff ..).mp missed
      obtain ⟨fault, failed, rfl⟩ := (outcome_skipped_iff tree base rules _ _).mp missed
      obtain ⟨names, location, bytes, visits, rfl, _⟩ :=
        (mem_candidates_iff filter _ opened candidate).mp member
      have tells := tells_of_visits opened free names location bytes
        (FileTree.reaches_of_visits visits)
      refine ⟨names, bytes, tells, ?_⟩
      rcases (readText_eq_error_iff tree base _ fault).mp failed with
        ⟨io, unread, _⟩ | ⟨content, reads, noText, _⟩
      · rw [tells.read] at unread
        cases unread
      · rw [tells.read] at reads
        injection reads with same
        exact same ▸ noText

theorem leads_docs (rest : List FileTree.Step) (found : FileTree.Found)
    (leads : FileTree.Leads linkedDocs 0 [docs] rest found) :
    FileTree.Leads linkedDocs 0 [] (.down docs :: rest) found :=
  .directory 0 [] docs rest found rfl leads

theorem reaches_docs (names : List FileName) (found : FileTree.Found)
    (reaches : Reaches linkedDocs false (PassesOver .empty) [[docs]] [docs] [] names found) :
    names = [] ∨ names = [notes] := by
  have inside : ∀ name entry, linkedDocs.stands? [docs, name] = some entry →
      name = notes ∧ entry = .file ⟨#[255]⟩ := by
    intro name entry stands
    have member := linkedDocs.mem_entries_of_stands [docs, name] entry (by simp) stands
    simpa [linkedDocs] using member
  cases reaches with
  | arrived => exact .inl rfl
  | file _ _ _ name _ _ _ shows =>
    obtain ⟨entry, stands⟩ := FileTree.stands_of_showsFile shows
    rw [(inside name entry stands).1]
    exact .inr rfl
  | down _ _ _ _ name _ _ _ enters =>
    cases enters with
    | directory real => cases (inside name _ real).2
    | link _ follows => cases follows

theorem resolve_notes (root : RawText)
    (opened : linkedDocs.resolve [] root = .ok (.directory [docs]))
    (short : (pathBelow root [notes]).length < FileTree.pathLimit) :
    linkedDocs.resolve [] (pathBelow root [notes]) = .ok (.file [docs, notes] ⟨#[255]⟩) :=
  linkedDocs.resolve_join opened notes _ (.file [docs] notes ⟨#[255]⟩ rfl) short

theorem unhindered_docs (root : RawText)
    (opened : linkedDocs.resolve [] root = .ok (.directory [docs]))
    (short : (pathBelow root [notes]).length < FileTree.pathLimit) :
    Unhindered linkedDocs [] false (PassesOver .empty) root [docs] := by
  intro names found reaches
  rcases reaches_docs names found reaches with rfl | rfl
  · exact ⟨_, opened⟩
  · exact ⟨_, resolve_notes root opened short⟩

theorem result_of_linkedDocs :
    linkedDocs.resolve [] (Text.raw "./docs//.") = .ok (.directory [docs]) ∧
      linkedDocs.resolve [] (Text.raw "link") = .ok (.directory [docs]) ∧
      ∃ result, scan linkedDocs [] .tasks (Text.raw "./docs//.") .empty .empty {} = .ok result ∧
        scan linkedDocs [] .tasks (Text.raw "link") .empty .empty {} = .ok result := by
  have direct : linkedDocs.resolve [] (Text.raw "./docs//.") = .ok (.directory [docs]) := by
    apply linkedDocs.resolve_of_leads _ _ _ 0 (by decide) (by decide) (by decide) (by decide)
    exact .here _ _ _ _ (leads_docs _ _ (.here _ _ _ _ (.here _ _ _ _ (.arrived _))))
  have linked : linkedDocs.resolve [] (Text.raw "link") = .ok (.directory [docs]) := by
    apply linkedDocs.resolve_of_leads _ _ _ 1 (by decide) (by decide) (by decide) (by decide)
    exact .link 0 _ _ (Text.raw "docs") _ _ rfl (leads_docs _ _ (.arrived _))
  have holds := result_of_any_root linkedDocs [] [] .tasks (Text.raw "./docs//.") (Text.raw "link")
    .empty .empty {} [docs] direct linked (unhindered_docs _ direct (by decide +kernel))
    (unhindered_docs _ linked (by decide +kernel))
  obtain ⟨result, scanned⟩ := holds.2.2.1 (Workers.ready_none _)
  exact ⟨direct, linked, result, scanned, holds.2.1 ▸ scanned⟩

theorem candidates_docs (root : RawText)
    (opened : linkedDocs.resolve [] root = .ok (.directory [docs])) :
    candidates linkedDocs [] root .empty false = [⟨pathBelow root [notes], "notes"⟩] := by
  have distinct := List.Nodup.of_map _ (paths_nodup .empty false linkedDocs [] root)
  apply List.perm_singleton.mp
  refine (List.perm_ext_iff_of_nodup distinct (List.nodup_singleton _)).mpr fun candidate => ?_
  rw [List.mem_singleton, mem_candidates_iff .empty false opened]
  constructor
  · rintro ⟨names, location, bytes, visits, rfl, _⟩
    rcases reaches_docs names _ (FileTree.reaches_of_visits visits) with rfl | rfl
    · exact absurd rfl (linkedDocs.visits_file_ne_nil visits)
    · exact congrArg (Candidate.mk _) (by decide +kernel)
  · rintro rfl
    refine ⟨[notes], [docs, notes], ⟨#[255]⟩, ?_, congrArg (Candidate.mk _) (by decide +kernel),
      PathFilter.isIncluded_empty _⟩
    exact .file _ _ _ _ _ _ ⟨_, opened⟩ (.file ⟨#[255]⟩ rfl)

theorem skipped_docs (root : RawText)
    (opened : linkedDocs.resolve [] root = .ok (.directory [docs]))
    (fault : ReadFault) (failed : readText linkedDocs [] (pathBelow root [notes]) = .error fault) :
    ∃ result, scan linkedDocs [] .tasks root .empty .empty {} = .ok result ∧
      result.skipped = [⟨"notes", skipReason fault⟩] := by
  refine ⟨_, scan_of_directory opened (Workers.ready_none _), ?_⟩
  rw [candidates_docs root opened, List.map_singleton, outcome, failed]
  exact List.mergeSort_singleton _

def marked : FileName := ⟨Text.raw "a\ufffd", by decide +kernel⟩

/-- Under the longest path of the directory the file cannot be opened, and is skipped for that. And
where a name is no text, the path that is reported, joined to the root, leads nowhere. -/
theorem result_differs_and_leads_nowhere :
    (linkedDocs.resolve [] (Text.raw "/docs") = .ok (.directory [docs]) ∧
      linkedDocs.resolve [] (FileTree.dotted (Text.raw "/docs") 2045) = .ok (.directory [docs]) ∧
      scan linkedDocs [] .tasks (Text.raw "/docs") .empty .empty {} ≠
        scan linkedDocs [] .tasks (FileTree.dotted (Text.raw "/docs") 2045) .empty .empty {}) ∧
      ∃ rules result, scan alike [] .tasks [Path.slash] .empty rules {} = .ok result ∧
        ∃ violation ∈ result.violations,
          alike.read [] (Path.join [Path.slash] (Text.raw violation.path)) = .error .notFound := by
  have short : linkedDocs.resolve [] (Text.raw "/docs") = .ok (.directory [docs]) := by
    apply linkedDocs.resolve_of_leads _ _ _ 0 (by decide) (by decide) (by decide) (by decide)
    exact .here _ _ _ _ (leads_docs _ _ (.arrived _))
  have long := FileTree.resolve_dotted short 2045 (by decide)
  refine ⟨⟨short, long, fun same => ?_⟩, ?_⟩
  · have reads : linkedDocs.read [] (pathBelow (Text.raw "/docs") [notes]) = .ok ⟨#[255]⟩ :=
      (linkedDocs.read_eq_ok_iff [] _ _).mpr ⟨_, resolve_notes _ short (by decide +kernel)⟩
    have tooLong := linkedDocs.resolve_below_full [] (FileTree.dotted (Text.raw "/docs") 2045)
      [notes] (by simp) (FileTree.nul_notMem_dotted _ _ (by decide))
      (by rw [FileTree.length_dotted]; decide)
    obtain ⟨one, scanned, first⟩ := skipped_docs _ short .encoding (by rw [readText, reads]; rfl)
    obtain ⟨other, again, second⟩ := skipped_docs _ long (.io .nameTooLong)
      (by rw [readText, FileTree.read, tooLong]; rfl)
    rw [scanned, again] at same
    rw [Except.ok.inj same, second] at first
    exact absurd first (by decide)
  · obtain ⟨rule, made⟩ := exists_letter_rule
    have first := outcome_alike made alikeOne 'x' (.inl rfl) (by decide +kernel) read_alike.1
    refine ⟨⟨[rule]⟩, _, scan_of_directory (alike.resolve_slash []) (Workers.ready_none _),
      alikeViolation "x", ?_, ?_⟩
    · refine (mem_merged_violations_iff ..).mpr ⟨_, mem_candidates_alike false alikeOne _ rfl, ?_⟩
      rw [first]
      exact List.mem_singleton.mpr rfl
    · have parts : FileTree.steps (Path.join [Path.slash] (Text.raw "a\ufffd")) =
          [.here, .down marked] := rfl
      have missing : alike.resolve [] (Path.join [Path.slash] (Text.raw "a\ufffd")) =
          .error .notFound := by
        rw [FileTree.resolve_eq_follow _ _ _ (by decide) (by decide) (by decide), parts,
          FileTree.follow, FileTree.follow]
        rfl
      exact congrArg (· >>= _) missing

end PatternLint.Scan
