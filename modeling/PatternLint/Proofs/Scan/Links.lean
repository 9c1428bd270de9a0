import PatternLint.Proofs.FileTree.Descent
import PatternLint.Proofs.FileTree.Limit
import PatternLint.Proofs.FileTree.Present
import PatternLint.Proofs.FileTree.Unhindered
import PatternLint.Proofs.Scan.Candidates

namespace PatternLint.Scan

open FileTree (Visits Reaches Openable Unhindered namesText pathBelow IsText)

/-- With links followed a walk ends and takes up each file once: those that `Visits` describes, as
far as they are to be scanned. What `Visits` asks beyond `Reaches` is that paths can be opened, and
where all can be there is no difference. -/
theorem candidates_over_links (tree : FileTree) (base : Location) (root : RawText)
    (filter : PathFilter) (place : Location)
    (opened : tree.resolve base root = .ok (.directory place)) :
    WellFounded (tree.GoesOn true) ∧
      ((candidates tree base root filter true).map Candidate.path).Nodup ∧
      ((∀ item ∈ tree.entries, ∀ name ∈ item.1, IsText name) →
        ((candidates tree base root filter true).map Candidate.shown).Nodup) ∧
      (∀ candidate, candidate ∈ candidates tree base root filter true ↔
        ∃ names location bytes,
          Visits tree true (PassesOver filter)
              (fun names => Openable tree base (pathBelow root names)) [place] place [] names
              (.file location bytes) ∧
            candidate = ⟨pathBelow root names, String.ofList (namesText names)⟩ ∧
            filter.isIncluded (Text.encode (namesText names)) = true) ∧
      (∀ names found, Visits tree true (PassesOver filter)
          (fun names => Openable tree base (pathBelow root names)) [place] place [] names found →
        names.length ≤ tree.directories.length * (tree.depth + 1)) ∧
      (Unhindered tree base true (PassesOver filter) root place → ∀ names found,
        (Visits tree true (PassesOver filter)
            (fun names => Openable tree base (pathBelow root names)) [place] place [] names found ↔
          Reaches tree true (PassesOver filter) [place] place [] names found)) := by
  refine ⟨tree.goesOn_wellFounded true, paths_nodup filter true tree base root,
    shown_nodup filter true tree base root, mem_candidates_iff filter true opened, ?_, ?_⟩
  · exact fun names found => tree.visits_start_length_le true _ _ place [] names found
  · intro free names found
    exact ⟨FileTree.reaches_of_visits, FileTree.visits_of_reaches free⟩

def docs : FileName := ⟨Text.raw "docs", by decide +kernel⟩

def notes : FileName := ⟨Text.raw "notes", by decide +kernel⟩

def link : FileName := ⟨Text.raw "link", by decide +kernel⟩

/-- A directory with a file that is no text, and a link to the directory. -/
def linkedDocs : FileTree where
  entries :=
    [([docs], .directory), ([docs, notes], .file ⟨#[255]⟩), ([link], .link (Text.raw "docs"))]
  distinct := by decide +kernel
  closed := by decide +kernel

theorem linkLeads_docs : FileTree.LinkLeads linkedDocs [] link (.directory [docs]) := by
  refine ⟨⟨Text.raw "docs", rfl⟩, 1, .link 0 [] link (Text.raw "docs") [] _ rfl ?_⟩
  exact .directory 0 [] docs [] _ rfl (.arrived [docs])

theorem openable_link : Openable linkedDocs [] (pathBelow [Path.slash] [link]) := by
  refine ⟨_, linkedDocs.resolve_of_leads [] _ (.directory [docs]) 1 (by decide) (by decide)
    (by decide) (by decide) ?_⟩
  apply FileTree.Leads.here
  apply FileTree.Leads.link 0 [] link (Text.raw "docs") [] _ rfl
  exact .directory 0 [] docs [] _ rfl (.arrived [docs])

/-- The file below the link is taken up under the name of the link. -/
theorem candidates_of_linkedDocs :
    linkedDocs.resolve [] [Path.slash] = .ok (.directory []) ∧
      ⟨Text.raw "/link/notes", "link/notes"⟩ ∈
        candidates linkedDocs [] [Path.slash] .empty true := by
  have opened := linkedDocs.resolve_slash []
  refine ⟨opened, ?_⟩
  have holds := candidates_over_links linkedDocs [] [Path.slash] .empty [] opened
  apply (holds.2.2.2.1 _).mpr
  refine ⟨[link, notes], [docs, notes], ⟨#[255]⟩, ?_, by decide +kernel,
    PathFilter.isIncluded_empty _⟩
  apply FileTree.Visits.down [[]] [] [docs] [] link [notes] _ ⟨_, opened⟩
  · exact .link [docs] rfl openable_link linkLeads_docs (by decide)
  · simp [PassesOver]
  · exact .file _ _ _ _ _ _ openable_link (.file ⟨#[255]⟩ rfl)

theorem linkedDocs_files (name : FileName) (bytes : ByteArray) :
    linkedDocs.stands? [name] ≠ some (.file bytes) := by
  intro stands
  have member := linkedDocs.mem_entries_of_stands [name] _ (by simp) stands
  simp [linkedDocs] at member

theorem candidates_of_long_root (root : RawText) (full : FileTree.pathLimit ≤ root.length + 1)
    (opened : linkedDocs.resolve [] root = .ok (.directory [])) :
    candidates linkedDocs [] root .empty true = [] := by
  have closed : ∀ name, ¬ Openable linkedDocs [] (pathBelow root [name]) := fun name =>
    linkedDocs.not_openable_below [] root [name] (by simp) full
  refine List.eq_nil_iff_forall_not_mem.mpr fun candidate member => ?_
  obtain ⟨names, location, bytes, visits, _, _⟩ :=
    (mem_candidates_iff .empty true opened candidate).mp member
  cases visits with
  | file _ _ _ name _ _ _ shows =>
    cases shows with
    | file _ stands => exact linkedDocs_files name bytes stands
    | link _ _ _ opens => exact closed name opens
  | down _ _ _ _ name _ _ _ _ _ below => exact closed name (linkedDocs.opens_of_visits_file below)

/-- Two names that differ, and that are shown alike since neither is a text. -/
def alikeOne : FileName := ⟨[97, 254], by decide +kernel⟩

def alikeOther : FileName := ⟨[97, 255], by decide +kernel⟩

def alike : FileTree where
  entries := [([alikeOne], .file "x".toUTF8), ([alikeOther], .file "y".toUTF8)]
  distinct := by decide +kernel
  closed := by decide +kernel

def alikeCandidate (name : FileName) : Candidate :=
  ⟨pathBelow [Path.slash] [name], String.ofList (namesText [name])⟩

theorem mem_candidates_alike (followLinks : Bool) (name : FileName) (bytes : ByteArray)
    (stands : alike.stands? [name] = some (.file bytes)) :
    alikeCandidate name ∈ candidates alike [] [Path.slash] .empty followLinks := by
  have opened := alike.resolve_slash []
  apply (mem_candidates_iff .empty followLinks opened _).mpr
  exact ⟨[name], [name], bytes, .file _ _ _ _ _ _ ⟨_, opened⟩ (.file bytes stands), rfl,
    PathFilter.isIncluded_empty _⟩

theorem shown_alike (followLinks : Bool) :
    ¬ ((candidates alike [] [Path.slash] .empty followLinks).map Candidate.shown).Nodup := by
  intro distinct
  have one := mem_candidates_alike followLinks alikeOne _ rfl
  have other := mem_candidates_alike followLinks alikeOther _ rfl
  have same := List.inj_on_of_nodup_map distinct one other (by decide +kernel)
  exact absurd same (by decide +kernel)

/-- Under the longest path of a directory a walk misses a file that names lead to, and files whose
names are no texts are taken up under one path. -/
theorem candidates_miss_and_repeat :
    (linkedDocs.resolve [] (FileTree.dotted [Path.slash] 2047) = .ok (.directory []) ∧
      (∃ bytes, Reaches linkedDocs true (PassesOver .empty) [[]] [] [] [docs, notes]
        (.file [docs, notes] bytes)) ∧
      PathFilter.empty.isIncluded (Text.encode (namesText [docs, notes])) = true ∧
      candidates linkedDocs [] (FileTree.dotted [Path.slash] 2047) .empty true = []) ∧
      alike.resolve [] [Path.slash] = .ok (.directory []) ∧
        ¬ ((candidates alike [] [Path.slash] .empty true).map Candidate.shown).Nodup := by
  have short := FileTree.length_dotted [Path.slash] 2047
  have opened := FileTree.resolve_dotted (linkedDocs.resolve_slash []) 2047 (by decide)
  refine ⟨⟨opened, ⟨⟨#[255]⟩, ?_⟩, PathFilter.isIncluded_empty _, ?_⟩, alike.resolve_slash [],
    shown_alike true⟩
  · exact .down _ _ _ _ docs _ _ trivial (.directory rfl) (by simp [PassesOver])
      (.file _ _ _ notes _ _ trivial (.file ⟨#[255]⟩ rfl))
  · exact candidates_of_long_root _ (by rw [short]; decide) opened

end PatternLint.Scan
