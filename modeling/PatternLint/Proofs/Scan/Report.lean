import Mathlib.Data.Set.Card
import PatternLint.Proofs.FileTree.Real
import PatternLint.Proofs.Scan.Order

namespace PatternLint.Scan

open FileTree (RealFile Openable EndsAt IsText namesText pathBelow)

section Merging

variable (tree : FileTree) (base : Location) (rules : RuleSet) (list : List Candidate)

theorem mem_merged_violations_iff (violation : Violation) :
    violation ∈ (merge (list.map (outcome tree base rules))).violations ↔
      ∃ candidate ∈ list, violation ∈ (outcome tree base rules candidate).violations := by
  rw [merge, Violation.sort, List.mem_mergeSort, List.flatMap_map, List.mem_flatMap]

theorem mem_merged_skipped_iff (skipped : Skipped) :
    skipped ∈ (merge (list.map (outcome tree base rules))).skipped ↔
      ∃ candidate ∈ list, (outcome tree base rules candidate).skipped? = some skipped := by
  rw [merge, Skipped.sort, List.mem_mergeSort, List.filterMap_map, List.mem_filterMap]
  rfl

end Merging

theorem merge_counts (outcomes : List Outcome) :
    (merge outcomes).files + (merge outcomes).skipped.length = outcomes.length := by
  have counted : (outcomes.filter Outcome.isScanned).length +
      (outcomes.filterMap Outcome.skipped?).length = outcomes.length := by
    induction outcomes with
    | nil => rfl
    | cons outcome rest ih =>
      cases outcome with
      | scanned candidate violations =>
        rw [List.filter_cons_of_pos rfl, List.filterMap_cons_none rfl, List.length_cons,
          List.length_cons, ← ih]
        omega
      | skipped candidate fault =>
        have kept : (Outcome.skipped candidate fault).skipped? =
            some ⟨candidate.shown, skipReason fault⟩ := rfl
        rw [List.filter_cons_of_neg (by simp [Outcome.isScanned]),
          List.filterMap_cons_some kept, List.length_cons, List.length_cons, ← ih]
        omega
  rw [← counted, merge, Skipped.sort, List.length_mergeSort]

/-- All files and directories below a root can be opened under its path. -/
def Readable (tree : FileTree) (base : Location) (root : RawText) (place : Location) : Prop :=
  ∀ names entry, tree.stands? (place ++ names) = some entry → (∀ target, entry ≠ .link target) →
    Openable tree base (pathBelow root names)

/-- Under this path a file with this content stands below a directory, and is to be scanned. -/
def Included (tree : FileTree) (place : Location) (filter : PathFilter) (path : String)
    (bytes : ByteArray) : Prop :=
  ∃ names, path = String.ofList (namesText names) ∧ RealFile tree place names bytes ∧
    filter.isIncluded (Text.raw path) = true

/-- A result that tells of all files to be scanned below a directory, and of nothing else. -/
structure Accounts (tree : FileTree) (place : Location) (filter : PathFilter) (rules : RuleSet)
    (result : ScanResult) : Prop where
  violations : ∀ violation, violation ∈ result.violations ↔
    ∃ text : String, Included tree place filter violation.path text.toUTF8 ∧
      violation ∈ textViolations violation.path rules text
  once : result.violations.Nodup
  skipped : ∀ skipped, skipped ∈ result.skipped ↔
    skipped.reason = "not valid UTF-8" ∧
      ∃ bytes, Included tree place filter skipped.path bytes ∧
        ∀ text : String, text.toUTF8 ≠ bytes
  inOrder : result.skipped.Pairwise fun one other => one.path < other.path
  files : {path | ∃ text : String, Included tree place filter path text.toUTF8}.encard =
    result.files
  total : {path | ∃ bytes, Included tree place filter path bytes}.encard =
    (result.files + result.skipped.length : Nat)
  apart : ∀ skipped ∈ result.skipped, ∀ violation ∈ result.violations,
    violation.path ≠ skipped.path

theorem encard_of_nodup (paths : List String) (distinct : paths.Nodup) :
    {path | path ∈ paths}.encard = paths.length := by
  rw [← List.coe_toFinset, Set.encard_coe_eq_coe_finsetCard, List.toFinset_card_of_nodup distinct]

section Readable

variable {tree : FileTree} {base : Location} {root : RawText} {place : Location}
  (opened : tree.resolve base root = .ok (.directory place))
  (readable : Readable tree base root place)

include opened readable

theorem mem_candidates_real_iff (filter : PathFilter) (candidate : Candidate) :
    candidate ∈ candidates tree base root filter false ↔
      ∃ names bytes, RealFile tree place names bytes ∧
        candidate = ⟨pathBelow root names, String.ofList (namesText names)⟩ ∧
        filter.isIncluded (Text.encode (namesText names)) = true := by
  rw [candidates_eq_filter_walk, mem_filter_walk_iff filter false opened]
  constructor
  · rintro ⟨names, location, bytes, visits, same, included⟩
    have real := (FileTree.visits_iff_realFile fun _ => Bool.false_ne_true).mp visits
    exact ⟨names, bytes, real.1, same, included⟩
  · rintro ⟨names, bytes, real, same, included⟩
    refine ⟨names, place ++ names, bytes, ?_, same, included⟩
    refine (FileTree.visits_iff_realFile fun _ => Bool.false_ne_true).mpr ⟨real, rfl, ?_⟩
    exact fun before begins shorter => readable before _ (real.above before begins shorter) nofun

theorem read_of_realFile (names : List FileName) (bytes : ByteArray)
    (real : RealFile tree place names bytes) :
    tree.read base (pathBelow root names) = .ok bytes := by
  have visits : FileTree.Visits tree false (fun _ => False) (fun _ => True) [place] place [] names
      (.file (place ++ names) bytes) :=
    (FileTree.visits_iff_realFile fun _ => id).mpr ⟨real, rfl, fun _ _ _ => trivial⟩
  have start : EndsAt tree base (pathBelow root []) (.directory place) :=
    tree.endsAt_of_resolve opened
  have ends := tree.endsAt_of_visits base start visits
  have opens := readable names _ real.stands nofun
  exact (tree.read_eq_ok_iff base _ bytes).mpr ⟨_, tree.resolve_of_endsAt opens ends⟩

variable (filter : PathFilter)

theorem included_iff (path : String) (bytes : ByteArray) :
    Included tree place filter path bytes ↔
      ∃ candidate ∈ candidates tree base root filter false,
        candidate.shown = path ∧ tree.read base candidate.path = .ok bytes := by
  constructor
  · rintro ⟨names, rfl, real, included⟩
    rw [Text.raw, String.toList_ofList] at included
    refine ⟨⟨pathBelow root names, String.ofList (namesText names)⟩, ?_, rfl,
      read_of_realFile opened readable names bytes real⟩
    exact (mem_candidates_real_iff opened readable filter _).mpr ⟨names, bytes, real, rfl, included⟩
  · rintro ⟨candidate, member, rfl, reads⟩
    obtain ⟨names, content, real, rfl, included⟩ :=
      (mem_candidates_real_iff opened readable filter _).mp member
    rw [read_of_realFile opened readable names content real] at reads
    injection reads with same
    refine ⟨names, rfl, same ▸ real, ?_⟩
    rwa [Text.raw, String.toList_ofList]

theorem exists_read (candidate : Candidate)
    (member : candidate ∈ candidates tree base root filter false) :
    ∃ bytes, tree.read base candidate.path = .ok bytes := by
  obtain ⟨names, bytes, real, rfl, _⟩ :=
    (mem_candidates_real_iff opened readable filter _).mp member
  exact ⟨bytes, read_of_realFile opened readable names bytes real⟩

theorem mem_violations_iff (rules : RuleSet) (violation : Violation) :
    violation ∈ (merge ((candidates tree base root filter false).map
        (outcome tree base rules))).violations ↔
      ∃ text : String, Included tree place filter violation.path text.toUTF8 ∧
        violation ∈ textViolations violation.path rules text := by
  rw [mem_merged_violations_iff]
  constructor
  · rintro ⟨candidate, member, found⟩
    have path := outcome_own tree base rules candidate violation found
    obtain ⟨text, reads, found⟩ := (mem_outcome_violations_iff tree base rules _ _).mp found
    rw [path]
    exact ⟨text, (included_iff opened readable filter _ _).mpr ⟨candidate, member, rfl, reads⟩,
      found⟩
  · rintro ⟨text, included, found⟩
    obtain ⟨candidate, member, shown, reads⟩ :=
      (included_iff opened readable filter _ _).mp included
    refine ⟨candidate, member,
      (mem_outcome_violations_iff tree base rules _ _).mpr ⟨text, reads, ?_⟩⟩
    rwa [shown]

theorem mem_skipped_iff (rules : RuleSet) (skipped : Skipped) :
    skipped ∈ (merge ((candidates tree base root filter false).map
        (outcome tree base rules))).skipped ↔
      skipped.reason = "not valid UTF-8" ∧
        ∃ bytes, Included tree place filter skipped.path bytes ∧
          ∀ text : String, text.toUTF8 ≠ bytes := by
  rw [mem_merged_skipped_iff]
  constructor
  · rintro ⟨candidate, member, found⟩
    obtain ⟨fault, failed, rfl⟩ := (outcome_skipped_iff tree base rules _ _).mp found
    rcases (readText_eq_error_iff tree base _ fault).mp failed with
      ⟨io, unread, _⟩ | ⟨bytes, reads, noText, rfl⟩
    · obtain ⟨bytes, reads⟩ := exists_read opened readable filter candidate member
      rw [reads] at unread
      cases unread
    · exact ⟨rfl, bytes,
        (included_iff opened readable filter _ _).mpr ⟨candidate, member, rfl, reads⟩, noText⟩
  · rintro ⟨reason, bytes, included, noText⟩
    obtain ⟨candidate, member, shown, reads⟩ :=
      (included_iff opened readable filter _ _).mp included
    refine ⟨candidate, member, (outcome_skipped_iff tree base rules _ _).mpr ⟨.encoding, ?_, ?_⟩⟩
    · exact (readText_eq_error_iff tree base _ _).mpr (.inr ⟨bytes, reads, noText, rfl⟩)
    · rw [shown, skipReason, ← reason]

variable (distinct : ((candidates tree base root filter false).map Candidate.shown).Nodup)

omit opened readable in
include distinct in
theorem encard_shown (keeps : Candidate → Bool) :
    {path | ∃ candidate ∈ candidates tree base root filter false,
      keeps candidate = true ∧ candidate.shown = path}.encard =
      ((candidates tree base root filter false).filter keeps).length := by
  have kept : (((candidates tree base root filter false).filter keeps).map Candidate.shown).Nodup :=
    (List.filter_sublist.map Candidate.shown).nodup distinct
  rw [← List.length_map (f := Candidate.shown), ← encard_of_nodup _ kept]
  congr 1
  ext path
  simp only [Set.mem_ofPred_eq, List.mem_map, List.mem_filter, and_assoc]

include distinct

theorem bytes_unique (path : String) (one other : ByteArray)
    (first : Included tree place filter path one)
    (second : Included tree place filter path other) : one = other := by
  obtain ⟨candidate, member, shown, reads⟩ := (included_iff opened readable filter _ _).mp first
  obtain ⟨also, present, same, content⟩ := (included_iff opened readable filter _ _).mp second
  have itself := List.inj_on_of_nodup_map distinct member present (shown.trans same.symm)
  rw [itself, content] at reads
  exact (Except.ok.inj reads).symm

theorem encard_scanned (rules : RuleSet) :
    {path | ∃ text : String, Included tree place filter path text.toUTF8}.encard =
      (merge ((candidates tree base root filter false).map (outcome tree base rules))).files := by
  rw [merge, List.filter_map, List.length_map,
    ← encard_shown filter distinct (Outcome.isScanned ∘ outcome tree base rules)]
  congr 1
  ext path
  simp only [Set.mem_ofPred_eq, Function.comp_apply, outcome_isScanned_iff,
    included_iff opened readable filter]
  constructor
  · rintro ⟨text, candidate, member, shown, reads⟩
    exact ⟨candidate, member, ⟨text, reads⟩, shown⟩
  · rintro ⟨candidate, member, ⟨text, reads⟩, shown⟩
    exact ⟨text, candidate, member, shown, reads⟩

theorem encard_included (rules : RuleSet) :
    {path | ∃ bytes, Included tree place filter path bytes}.encard =
      ((candidates tree base root filter false).map (outcome tree base rules)).length := by
  have all : (candidates tree base root filter false).filter (fun _ => true) =
      candidates tree base root filter false := List.filter_true _
  rw [List.length_map, ← all, ← encard_shown filter distinct]
  congr 1
  ext path
  simp only [Set.mem_ofPred_eq, true_and, included_iff opened readable filter]
  constructor
  · rintro ⟨bytes, candidate, member, shown, _⟩
    exact ⟨candidate, member, shown⟩
  · rintro ⟨candidate, member, shown⟩
    obtain ⟨bytes, reads⟩ := exists_read opened readable filter candidate member
    exact ⟨bytes, candidate, member, shown, reads⟩

theorem accounts_of_merge (rules : RuleSet) :
    Accounts tree place filter rules
      (merge ((candidates tree base root filter false).map (outcome tree base rules))) where
  violations := mem_violations_iff opened readable filter rules
  once := by
    refine (orderly_map_outcome tree base rules _ distinct).violations_pairwise.imp ?_
    intro one other earlier same
    exact lt_irrefl other.sortKey (same ▸ earlier)
  skipped := mem_skipped_iff opened readable filter rules
  inOrder := (orderly_map_outcome tree base rules _ distinct).skipped_pairwise
  files := encard_scanned opened readable filter distinct rules
  total := by
    rw [merge_counts]
    exact encard_included opened readable filter distinct rules
  apart := by
    intro skipped missed violation found same
    obtain ⟨_, bytes, unreadable, noText⟩ :=
      (mem_skipped_iff opened readable filter rules skipped).mp missed
    obtain ⟨text, readableAs, _⟩ :=
      (mem_violations_iff opened readable filter rules violation).mp found
    rw [same] at readableAs
    exact noText text
      (bytes_unique opened readable filter distinct skipped.path _ _ readableAs unreadable)

end Readable

/-- A scan fails of its root or of its pool, and of nothing else. With a pool, a scan that passes
over links fails if and only if its root does not lead to a directory; otherwise its result tells of
all files to be scanned there, and of nothing else. -/
theorem scan_accounts (tree : FileTree) (base : Location) (workers : Workers) (root : RawText)
    (filter : PathFilter) (rules : RuleSet) (threads : Option Nat)
    (texts : ∀ item ∈ tree.entries, ∀ name ∈ item.1, IsText name)
    (readable : ∀ place, tree.resolve base root = .ok (.directory place) →
      Readable tree base root place) :
    (∀ error, scan tree base workers root filter rules ⟨threads, false⟩ = .error error ↔
        (∃ fault, tree.resolveDirectory base root = .error fault ∧ error = .io root fault) ∨
          (∃ place, tree.resolve base root = .ok (.directory place)) ∧
            ∃ more reason, threads = some (more + 1) ∧
              workers.makePool (more + 1) = .error reason ∧ error = .threadPool reason) ∧
      (workers.Ready threads →
        ((∃ error, scan tree base workers root filter rules ⟨threads, false⟩ = .error error) ↔
            ¬ ∃ place, tree.resolve base root = .ok (.directory place)) ∧
          (∀ error, scan tree base workers root filter rules ⟨threads, false⟩ = .error error →
            ∃ fault, error = .io root fault) ∧
          ∀ place, tree.resolve base root = .ok (.directory place) →
            ∃ result, scan tree base workers root filter rules ⟨threads, false⟩ = .ok result ∧
              Accounts tree place filter rules result) := by
  refine ⟨fun error => scan_eq_error_iff error, fun ready => ?_⟩
  have works : ∀ place, tree.resolve base root = .ok (.directory place) →
      scan tree base workers root filter rules ⟨threads, false⟩ =
        .ok (merge ((candidates tree base root filter false).map (outcome tree base rules))) :=
    fun place opened => scan_of_directory opened ready
  refine ⟨⟨?_, ?_⟩, ?_, ?_⟩
  · rintro ⟨error, failed⟩ ⟨place, opened⟩
    rw [works place opened] at failed
    cases failed
  · intro nowhere
    cases scanned : scan tree base workers root filter rules ⟨threads, false⟩ with
    | error error => exact ⟨error, rfl⟩
    | ok result =>
      obtain ⟨list, worked, _⟩ := (scan_eq_ok_iff result).mp scanned
      exact absurd ((outcomes_eq_ok_iff list).mp worked).1 nowhere
  · intro error failed
    rcases (scan_eq_error_iff error).mp failed with ⟨fault, _, same⟩ | ⟨⟨place, opened⟩, _⟩
    · exact ⟨fault, same⟩
    · rw [works place opened] at failed
      cases failed
  · intro place opened
    have distinct := shown_nodup filter false tree base root texts
    exact ⟨_, works place opened,
      accounts_of_merge opened (readable place opened) filter distinct rules⟩

theorem readable_linkedDocs : Readable linkedDocs [] [Path.slash] [] := by
  intro names entry stands real
  by_cases start : names = []
  · subst start
    exact ⟨_, linkedDocs.resolve_slash []⟩
  rw [List.nil_append] at stands
  have member := linkedDocs.mem_entries_of_stands names entry start stands
  simp only [linkedDocs, List.mem_cons, Prod.mk.injEq, List.not_mem_nil, or_false] at member
  rcases member with ⟨rfl, rfl⟩ | ⟨rfl, rfl⟩ | ⟨rfl, rfl⟩
  · exact ⟨_, linkedDocs.resolve_of_leads [] _ _ 0 (by decide) (by decide) (by decide) (by decide)
      (.here 0 [] _ _ (.directory 0 [] docs [] _ rfl (.arrived [docs])))⟩
  · exact ⟨_, linkedDocs.resolve_of_leads [] _ _ 0 (by decide) (by decide) (by decide) (by decide)
      (.here 0 [] _ _ (.directory 0 [] docs _ _ rfl (.file [docs] notes _ rfl)))⟩
  · exact absurd rfl (real _)

/-- The file is found below its directory, and not below the link. -/
theorem scan_of_linkedDocs :
    ∃ result, scan linkedDocs [] .tasks [Path.slash] .empty .empty ⟨some 2, false⟩ = .ok result ∧
      Accounts linkedDocs [] .empty .empty result := by
  have opened := linkedDocs.resolve_slash []
  have readable : ∀ place, linkedDocs.resolve [] [Path.slash] = .ok (.directory place) →
      Readable linkedDocs [] [Path.slash] place := by
    intro place other
    rw [opened] at other
    cases other
    exact readable_linkedDocs
  have holds := scan_accounts linkedDocs [] .tasks [Path.slash] .empty .empty (some 2)
    isText_linkedDocs readable
  exact (holds.2 fun _ _ => rfl).2.2 [] opened

end PatternLint.Scan
