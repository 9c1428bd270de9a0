import Mathlib.Data.String.Basic
import PatternLint.Proofs.Scan.Links
import PatternLint.Proofs.Rule.Finding
import PatternLint.Proofs.Scan.Outcome
import PatternLint.Proofs.Sorting

/-!
The order of a report. What is reported is ordered by keys that no two findings share, so the order
in which files are done, which is up to the threads, leaves no trace in the result.
-/

namespace PatternLint

/-- Path, line, column, rule, compared in this order; paths by their characters. -/
def Violation.sortKey (violation : Violation) : String ×ₗ Nat ×ₗ Nat ×ₗ Nat :=
  toLex (violation.path, toLex (violation.line, toLex (violation.column, violation.rule)))

theorem Violation.precedes_byKey : Sorting.ByKey Violation.sortKey Violation.precedes := by
  intro one other
  simp only [sortKey, Prod.Lex.toLex_le_toLex, precedes]
  by_cases paths : one.path = other.path
  · by_cases lines : one.line = other.line
    · by_cases columns : one.column = other.column
      · simp [paths, lines, columns]
      · simp [paths, lines, columns]
    · simp [paths, lines]
  · simp [paths]

theorem Violation.sortKey_ne_of_searchKey_lt (one other : Violation)
    (earlier : one.searchKey < other.searchKey) : one.sortKey ≠ other.sortKey := by
  intro same
  simp only [sortKey, toLex_inj, Prod.mk.injEq] at same
  obtain ⟨_, line, column, rule⟩ := same
  rw [searchKey, searchKey, line, column, rule] at earlier
  exact lt_irrefl _ earlier

theorem Skipped.byPath :
    Sorting.ByKey Skipped.path fun one other =>
      one.path = other.path || one.path < other.path := by
  intro one other
  rw [Bool.or_eq_true, decide_eq_true_eq, decide_eq_true_eq]
  exact le_iff_eq_or_lt.symm

namespace Scan

/-- What comes of scanning different files: every finding is in the file of its outcome, and the
findings of one file are in the order of the search. -/
structure Orderly (outcomes : List Outcome) : Prop where
  apart : (outcomes.map Outcome.path).Nodup
  own : ∀ outcome ∈ outcomes, ∀ violation ∈ outcome.violations, violation.path = outcome.path
  searched : ∀ outcome ∈ outcomes,
    outcome.violations.Pairwise fun one other => one.searchKey < other.searchKey

namespace Orderly

variable {outcomes others : List Outcome}

theorem sortKeys_nodup (orderly : Orderly outcomes) :
    ((outcomes.flatMap Outcome.violations).map Violation.sortKey).Nodup := by
  apply List.pairwise_map.mpr
  apply List.pairwise_flatMap.mpr
  constructor
  · intro outcome member
    refine (orderly.searched outcome member).imp ?_
    intro one other earlier
    exact Violation.sortKey_ne_of_searchKey_lt one other earlier
  · refine (List.pairwise_map.mp orderly.apart).imp_of_mem ?_
    intro outcome next present also differ one first other second same
    apply differ
    rw [← orderly.own outcome present one first, ← orderly.own next also other second]
    exact congrArg (fun key => (ofLex key).1) same

theorem skippedPaths_nodup (orderly : Orderly outcomes) :
    ((outcomes.filterMap Outcome.skipped?).map Skipped.path).Nodup := by
  apply List.pairwise_map.mpr
  refine (List.pairwise_map.mp orderly.apart).filterMap _ ?_
  intro outcome next differ one first other second same
  apply differ
  cases outcome with
  | scanned candidate violations => cases first
  | skipped candidate fault =>
    cases next with
    | scanned candidate violations => cases second
    | skipped candidate fault =>
      cases first
      cases second
      exact same

theorem violations_pairwise (orderly : Orderly outcomes) :
    (merge outcomes).violations.Pairwise fun one other => one.sortKey < other.sortKey :=
  Sorting.pairwise_lt Violation.precedes_byKey orderly.sortKeys_nodup

theorem skipped_pairwise (orderly : Orderly outcomes) :
    (merge outcomes).skipped.Pairwise fun one other => one.path < other.path :=
  Sorting.pairwise_lt Skipped.byPath orderly.skippedPaths_nodup

theorem merge_eq_of_perm (orderly : Orderly outcomes) (same : others.Perm outcomes) :
    merge others = merge outcomes := by
  have violations := Sorting.eq_of_perm Violation.precedes_byKey orderly.sortKeys_nodup
    (same.flatMap_right Outcome.violations)
  have skipped := Sorting.eq_of_perm Skipped.byPath orderly.skippedPaths_nodup
    (same.filterMap Outcome.skipped?)
  have files := (same.filter Outcome.isScanned).length_eq
  simp only [merge, Violation.sort, Skipped.sort, violations, skipped, files]

end Orderly

variable (tree : FileTree) (base : Location) (rules : RuleSet) in
theorem orderly_map_outcome (list : List Candidate) (distinct : (list.map Candidate.shown).Nodup) :
    Orderly (list.map (outcome tree base rules)) where
  apart := by
    have paths : Outcome.path ∘ outcome tree base rules = Candidate.shown :=
      funext (outcome_path tree base rules)
    rwa [List.map_map, paths]
  own := by
    refine List.forall_mem_map.mpr fun candidate _ violation member => ?_
    rw [outcome_path]
    exact outcome_own tree base rules candidate violation member
  searched := List.forall_mem_map.mpr fun candidate _ => outcome_searched tree base rules candidate

def Workers.Ready (workers : Workers) (threads : Option Nat) : Prop :=
  ∀ more, threads = some (more + 1) → workers.makePool (more + 1) = .ok ()

/-- Whoever shares the work, its outcomes are those of one who does it all. -/
theorem Workers.outcomes_eq_ok_iff (workers : Workers) (threads : Option Nat)
    (work : Candidate → Outcome) (list : List Candidate) (done : List Outcome) :
    workers.outcomes threads work list = .ok done ↔
      workers.Ready threads ∧ done = list.map work := by
  unfold Workers.outcomes Ready
  split
  · rename_i more
    cases made : workers.makePool (more + 1) with
    | ok => simp [workers.inOrder, made, eq_comm]
    | error reason => simp [made]
  · rename_i none
    simp only [workers.inOrder, Except.ok.injEq, eq_comm (a := done)]
    exact (and_iff_right fun more some => absurd some (none more)).symm

theorem Workers.ready_none (workers : Workers) : workers.Ready none := nofun

theorem Workers.outcomes_eq_error_iff (workers : Workers) (threads : Option Nat)
    (work : Candidate → Outcome) (list : List Candidate) (error : Error) :
    workers.outcomes threads work list = .error error ↔
      ∃ more reason, threads = some (more + 1) ∧ workers.makePool (more + 1) = .error reason ∧
        error = .threadPool reason := by
  unfold Workers.outcomes
  split
  · rename_i more
    cases made : workers.makePool (more + 1) with
    | ok => simp [made]
    | error reason => simp [made, eq_comm]
  · rename_i none
    refine iff_of_false nofun ?_
    rintro ⟨more, _, some, _⟩
    exact none more some

section

variable {tree : FileTree} {base : Location} {workers : Workers} {root : RawText}
  {filter : PathFilter} {rules : RuleSet} {options : Options}

theorem outcomes_eq_ok_iff (list : List Outcome) :
    outcomes tree base workers root filter rules options = .ok list ↔
      (∃ place, tree.resolve base root = .ok (.directory place)) ∧ workers.Ready options.threads ∧
        list = (candidates tree base root filter options.followLinks).map
          (outcome tree base rules) := by
  unfold outcomes
  cases found : tree.resolveDirectory base root with
  | error fault =>
    refine iff_of_false nofun ?_
    rintro ⟨⟨place, opened⟩, _⟩
    rw [(tree.resolveDirectory_eq_ok_iff base root place).mpr opened] at found
    cases found
  | ok place =>
    have opened := (tree.resolveDirectory_eq_ok_iff base root place).mp found
    simp only [workers.outcomes_eq_ok_iff]
    exact (and_iff_right ⟨place, opened⟩).symm

variable (filter rules) in
theorem outcomes_eq_error_iff (error : Error) :
    outcomes tree base workers root filter rules options = .error error ↔
      (∃ fault, tree.resolveDirectory base root = .error fault ∧ error = .io root fault) ∨
        (∃ place, tree.resolve base root = .ok (.directory place)) ∧
          ∃ more reason, options.threads = some (more + 1) ∧
            workers.makePool (more + 1) = .error reason ∧ error = .threadPool reason := by
  unfold outcomes
  simp only [← tree.resolveDirectory_eq_ok_iff]
  cases tree.resolveDirectory base root with
  | error fault => simp [eq_comm]
  | ok place => simp [workers.outcomes_eq_error_iff]

theorem scan_eq_ok_iff (result : ScanResult) :
    scan tree base workers root filter rules options = .ok result ↔
      ∃ list, outcomes tree base workers root filter rules options = .ok list ∧
        merge list = result := by
  unfold scan
  cases outcomes tree base workers root filter rules options with
  | error error =>
    refine iff_of_false (fun failed => ?_) ?_
    · cases failed
    · rintro ⟨list, failed, _⟩
      cases failed
  | ok list =>
    constructor
    · intro merged
      injection merged with same
      exact ⟨list, rfl, same⟩
    · rintro ⟨_, worked, merged⟩
      injection worked with same
      rw [← merged, ← same]
      rfl

theorem scan_of_directory {place : Location}
    (opened : tree.resolve base root = .ok (.directory place))
    (ready : workers.Ready options.threads) :
    scan tree base workers root filter rules options =
      .ok (merge ((candidates tree base root filter options.followLinks).map
        (outcome tree base rules))) :=
  (scan_eq_ok_iff _).mpr ⟨_, (outcomes_eq_ok_iff _).mpr ⟨⟨place, opened⟩, ready, rfl⟩, rfl⟩

theorem scan_eq_error_iff (error : Error) :
    scan tree base workers root filter rules options = .error error ↔
      (∃ fault, tree.resolveDirectory base root = .error fault ∧ error = .io root fault) ∨
        (∃ place, tree.resolve base root = .ok (.directory place)) ∧
          ∃ more reason, options.threads = some (more + 1) ∧
            workers.makePool (more + 1) = .error reason ∧ error = .threadPool reason := by
  rw [← outcomes_eq_error_iff filter rules]
  unfold scan
  cases outcomes tree base workers root filter rules options with
  | error other =>
    constructor
    · intro failed
      injection failed with same
      rw [same]
    · intro failed
      injection failed with same
      rw [same]
      rfl
  | ok list => exact iff_of_false nofun nofun

end

theorem precedes_merge (outcomes : List Outcome) :
    ((merge outcomes).violations.Pairwise fun one other => one.sortKey ≤ other.sortKey) ∧
      (merge outcomes).skipped.Pairwise fun one other => one.path ≤ other.path :=
  ⟨Sorting.pairwise_le Violation.precedes_byKey _, Sorting.pairwise_le Skipped.byPath _⟩

/-- A report is ordered. If no two files are shown under one path, as is so where all names are
texts, then no two findings share a key, the order is strict, and outcomes that come in any other
order are merged into the same result. -/
theorem result_of_any_order (tree : FileTree) (base : Location) (workers : Workers) (root : RawText)
    (filter : PathFilter) (rules : RuleSet) (options : Options) :
    (∀ result, scan tree base workers root filter rules options = .ok result →
      (result.violations.Pairwise fun one other => one.sortKey ≤ other.sortKey) ∧
        result.skipped.Pairwise fun one other => one.path ≤ other.path) ∧
      ((∀ item ∈ tree.entries, ∀ name ∈ item.1, FileTree.IsText name) →
        ((candidates tree base root filter options.followLinks).map Candidate.shown).Nodup) ∧
      (((candidates tree base root filter options.followLinks).map Candidate.shown).Nodup →
        (∀ result, scan tree base workers root filter rules options = .ok result →
          (result.violations.map Violation.sortKey).Nodup ∧
            (result.violations.Pairwise fun one other => one.sortKey < other.sortKey) ∧
            result.skipped.Pairwise fun one other => one.path < other.path) ∧
          ∀ list, outcomes tree base workers root filter rules options = .ok list →
            scan tree base workers root filter rules options = .ok (merge list) ∧
              ∀ others, others.Perm list → merge others = merge list) := by
  refine ⟨?_, shown_nodup filter options.followLinks tree base root, ?_⟩
  · intro result scanned
    obtain ⟨list, _, rfl⟩ := (scan_eq_ok_iff result).mp scanned
    exact precedes_merge list
  · intro distinct
    have orderly := orderly_map_outcome tree base rules _ distinct
    constructor
    · intro result scanned
      obtain ⟨list, worked, rfl⟩ := (scan_eq_ok_iff result).mp scanned
      obtain ⟨_, _, same⟩ := (outcomes_eq_ok_iff list).mp worked
      rw [← same] at orderly
      have increasing := orderly.violations_pairwise
      refine ⟨?_, increasing, orderly.skipped_pairwise⟩
      exact List.pairwise_map.mpr (increasing.imp fun earlier => ne_of_lt earlier)
    · intro list worked
      obtain ⟨_, _, same⟩ := (outcomes_eq_ok_iff list).mp worked
      rw [← same] at orderly
      exact ⟨(scan_eq_ok_iff _).mpr ⟨list, worked, rfl⟩, fun _ => orderly.merge_eq_of_perm⟩

theorem isText_linkedDocs : ∀ item ∈ linkedDocs.entries, ∀ name ∈ item.1, FileTree.IsText name := by
  have first : FileTree.IsText docs := ⟨"docs", rfl⟩
  have second : FileTree.IsText notes := ⟨"notes", rfl⟩
  have third : FileTree.IsText link := ⟨"link", rfl⟩
  simp [linkedDocs, first, second, third]

theorem order_of_linkedDocs :
    ∃ list, outcomes linkedDocs [] .tasks [Path.slash] .empty .empty {} = .ok list ∧
      merge list.reverse = merge list := by
  have worked : outcomes linkedDocs [] .tasks [Path.slash] .empty .empty {} = .ok _ :=
    (outcomes_eq_ok_iff _).mpr ⟨⟨[], linkedDocs.resolve_slash []⟩, Workers.ready_none _, rfl⟩
  have holds := result_of_any_order linkedDocs [] .tasks [Path.slash] .empty .empty {}
  have distinct := holds.2.1 isText_linkedDocs
  exact ⟨_, worked, ((holds.2.2 distinct).2 _ worked).2 _ (List.reverse_perm _)⟩

theorem stands_alike (name : FileName) (entry : Entry)
    (stands : alike.stands? [name] = some entry) :
    (name = alikeOne ∨ name = alikeOther) ∧ ∃ bytes, entry = .file bytes := by
  have member := alike.mem_entries_of_stands [name] entry (by simp) stands
  simp only [alike, List.mem_cons, Prod.mk.injEq, List.cons.injEq, and_true, List.not_mem_nil,
    or_false] at member
  exact member.elim (fun first => ⟨.inl first.1, _, first.2⟩)
    fun second => ⟨.inr second.1, _, second.2⟩

theorem candidates_alike_perm : (candidates alike [] [Path.slash] .empty false).Perm
    [alikeCandidate alikeOne, alikeCandidate alikeOther] := by
  have opened := alike.resolve_slash []
  have distinct := List.Nodup.of_map _ (paths_nodup .empty false alike [] [Path.slash])
  refine (List.perm_ext_iff_of_nodup distinct (by decide +kernel)).mpr fun candidate => ?_
  rw [List.mem_pair]
  constructor
  · intro member
    obtain ⟨names, location, bytes, visits, rfl, _⟩ :=
      (mem_candidates_iff .empty false opened candidate).mp member
    cases visits with
    | file _ _ _ name _ _ _ shows =>
      obtain ⟨entry, stands⟩ := FileTree.stands_of_showsFile shows
      rcases (stands_alike name entry stands).1 with rfl | rfl
      · exact .inl rfl
      · exact .inr rfl
    | down _ _ _ _ name _ _ _ enters =>
      cases enters with
      | directory real =>
        obtain ⟨_, _, file⟩ := stands_alike name _ real
        cases file
      | link _ follows => cases follows
  · rintro (rfl | rfl)
    · exact mem_candidates_alike false alikeOne _ rfl
    · exact mem_candidates_alike false alikeOther _ rfl

theorem read_alike :
    alike.read [] (alikeCandidate alikeOne).path = .ok "x".toUTF8 ∧
      alike.read [] (alikeCandidate alikeOther).path = .ok "y".toUTF8 := by
  have opened := alike.resolve_slash []
  constructor
  · exact (alike.read_eq_ok_iff [] _ _).mpr ⟨_, alike.resolve_join opened alikeOne _
      (.file [] alikeOne _ rfl) (by decide)⟩
  · exact (alike.read_eq_ok_iff [] _ _).mpr ⟨_, alike.resolve_join opened alikeOther _
      (.file [] alikeOther _ rfl) (by decide)⟩

theorem exists_letter_rule : ∃ rule, Rule.compile ⟨"x|y", none, []⟩ = .ok rule :=
  (Rule.compiles_iff ⟨"x|y", none, []⟩).mpr (List.forall_mem_singleton.mpr ⟨_, rfl⟩)

theorem textViolations_of_letter {rule : Rule}
    (compiled : Rule.compile ⟨"x|y", none, []⟩ = .ok rule) (path : String) (char : Char)
    (letter : char = 'x' ∨ char = 'y') :
    textViolations path ⟨[rule]⟩ (String.singleton char) =
      [⟨path, 1, 1, String.singleton char, rule.message, 0⟩] := by
  have parts := Rule.parts_of_compile compiled
  have strict : rule.allow = [] := List.forall₂_nil_left_iff.mp parts.2
  have meaning : Regex.Expr.ofPattern "x|y" = .ok (.alt (.ofChar 'x') (.ofChar 'y')) := rfl
  rw [Regex.expr_of_compile _ _ parts.1] at meaning
  have expr := Except.ok.inj meaning
  have matched : rule.pattern.expr.Matches #[char] 0 1 := by
    rw [expr]
    rcases letter with rfl | rfl
    · exact .preferred _ _ 0 1 (.set _ 0 'x' rfl (by decide))
    · exact .other _ _ 0 1 (.set _ 0 'y' rfl (by decide))
  have found := Rule.findIn_of_char compiled strict (by rw [expr]; rfl) matched
  have lines : Text.lines (Text.dropMark (String.singleton char).toList) = [[char]] := by
    rcases letter with rfl | rfl <;> decide
  have text : Regex.Stretch.text ⟨0, 1⟩ #[char] = String.singleton char := by
    rcases letter with rfl | rfl <;> decide
  rw [textViolations, lines]
  simp [lineViolations, ruleViolations, found, text]

/-- What is reported of the two files: it differs, at one and the same place of one path. -/
def alikeViolation (matched : String) : Violation :=
  ⟨"a\ufffd", 1, 1, matched, "disallowed pattern: x|y", 0⟩

theorem merge_alike (first second : Candidate) (one other : String) :
    (merge
      [.scanned first [alikeViolation one], .scanned second [alikeViolation other]]).violations =
      [alikeViolation one, alikeViolation other] := by
  have listed : List.Pairwise (fun one other => Violation.precedes one other = true)
      [alikeViolation one, alikeViolation other] := by
    simp [alikeViolation, Violation.precedes]
  exact List.mergeSort_of_pairwise listed

theorem outcome_alike {rule : Rule} (compiled : Rule.compile ⟨"x|y", none, []⟩ = .ok rule)
    (name : FileName) (char : Char) (letter : char = 'x' ∨ char = 'y')
    (shown : (alikeCandidate name).shown = "a\ufffd")
    (reads : alike.read [] (alikeCandidate name).path = .ok (String.singleton char).toUTF8) :
    outcome alike [] ⟨[rule]⟩ (alikeCandidate name) =
      .scanned (alikeCandidate name) [alikeViolation (String.singleton char)] := by
  have message : rule.message = "disallowed pattern: x|y" := Rule.message_of_compile compiled
  rw [outcome, (readText_eq_ok_iff alike [] _ _).mpr reads]
  simp only [textViolations_of_letter compiled _ char letter, shown, message]
  rfl

/-- What is found in two files that are shown under one path comes in the order of the files, and no
key tells the findings apart. -/
theorem order_of_alike :
    ∃ rules list, RuleSet.compile [⟨"x|y", none, []⟩] = .ok rules ∧
      outcomes alike [] .tasks [Path.slash] .empty rules {} = .ok list ∧
      ¬ ((merge list).violations.map Violation.sortKey).Nodup ∧
      ¬ ∀ others, others.Perm list → merge others = merge list := by
  obtain ⟨rule, made⟩ := exists_letter_rule
  have compiled : RuleSet.compile [⟨"x|y", none, []⟩] = .ok ⟨[rule]⟩ :=
    (bind_eq_ok_iff ..).mpr ⟨[rule], (mapM_eq_ok_iff ..).mpr (.cons made .nil), rfl⟩
  have worked : outcomes alike [] .tasks [Path.slash] .empty ⟨[rule]⟩ {} = .ok _ :=
    (outcomes_eq_ok_iff _).mpr ⟨⟨[], alike.resolve_slash []⟩, Workers.ready_none _, rfl⟩
  refine ⟨⟨[rule]⟩, _, compiled, worked, ?_⟩
  have first := outcome_alike made alikeOne 'x' (.inl rfl) (by decide +kernel) read_alike.1
  have second := outcome_alike made alikeOther 'y' (.inr rfl) (by decide +kernel) read_alike.2
  have both := candidates_alike_perm.map (outcome alike [] ⟨[rule]⟩)
  rw [List.map_cons, List.map_singleton, first, second] at both
  constructor
  · intro distinct
    have found := List.mergeSort_perm
      (((candidates alike [] [Path.slash] .empty false).map (outcome alike [] ⟨[rule]⟩)).flatMap
        Outcome.violations) Violation.precedes
    have keys := (found.trans (both.flatMap_right Outcome.violations)).map Violation.sortKey
    have apart := keys.nodup_iff.mp distinct
    simp [Outcome.violations, alikeViolation, Violation.sortKey] at apart
  · intro same
    have one := same _ both.symm
    have other := same _ ((List.Perm.swap ..).trans both.symm)
    have lists := congrArg ScanResult.violations (one.trans other.symm)
    rw [merge_alike, merge_alike] at lists
    simp [alikeViolation] at lists

end Scan

end PatternLint
