import PatternLint.Proofs.FileTree.Joined

namespace PatternLint.FileTree

variable (tree : FileTree)

/-- Something is found under a path: it is a path that may be asked for, and it ends at a file or a
directory before too many links are crossed. -/
structure Present (base : Location) (path : RawText) : Prop where
  plain : 0 ∉ path
  given : path ≠ []
  short : path.length < pathLimit
  ends : ∃ found, ∃ crossed ≤ linkLimit,
    Leads tree crossed (beginning base path) (steps path) found

theorem leads_iff_present (base : Location) (path : RawText) :
    tree.leads base path = true ↔ Present tree base path := by
  have found : tree.leads base path = true ↔ ∃ found, tree.resolve base path = .ok found := by
    rw [FileTree.leads]
    cases tree.resolve base path with
    | error fault => exact iff_of_false Bool.false_ne_true (by rintro ⟨_, ⟨⟩⟩)
    | ok found => exact iff_of_true rfl ⟨found, rfl⟩
  rw [found]
  simp only [resolve_eq_ok_iff]
  constructor
  · rintro ⟨found, plain, given, short, ends⟩
    exact ⟨plain, given, short, found, ends⟩
  · rintro ⟨plain, given, short, found, ends⟩
    exact ⟨found, plain, given, short, ends⟩

theorem resolve_slash (base : Location) :
    tree.resolve base [Path.slash] = .ok (.directory []) := by
  apply tree.resolve_of_leads base _ _ 0 (by decide) (by decide) (by decide) (by decide)
  exact .here 0 [] _ _ (.here 0 [] _ _ (.arrived []))

/-- As long as there is room for its name, an entry is found under the path of its directory. -/
theorem resolve_join {base : Location} {dir : RawText} {place : Location}
    (opened : tree.resolve base dir = .ok (.directory place)) (name : FileName) (found : Found)
    (last : Leads tree 0 place [.down name] found)
    (short : (Path.join dir name.bytes).length < pathLimit) :
    tree.resolve base (Path.join dir name.bytes) = .ok found := by
  obtain ⟨plain, _, _, crossed, few, reached⟩ := (tree.resolve_eq_ok_iff base dir _).mp opened
  obtain ⟨above, parts, upper⟩ := tree.steps_join_name base dir place crossed name reached
  have free := nul_notMem_join dir name plain
  have given : Path.join dir name.bytes ≠ [] :=
    List.ne_nil_of_length_pos (Nat.zero_lt_of_lt (join_name_length dir name))
  refine tree.resolve_of_leads base _ found crossed free given short few ?_
  rw [parts]
  exact tree.leads_append crossed 0 _ place above _ found upper last

theorem leads_of_resolve {base : Location} {path : RawText} {found : Found}
    (resolves : tree.resolve base path = .ok found) : tree.leads base path = true := by
  rw [FileTree.leads, resolves]
  rfl

theorem leadsToFile_of_resolve {base : Location} {path : RawText} {location : Location}
    {bytes : ByteArray} (resolves : tree.resolve base path = .ok (.file location bytes)) :
    tree.leadsToFile base path = true := by
  rw [leadsToFile, resolves]

theorem leadsToFile_eq_false_of_leads {base : Location} {path : RawText}
    (nothing : tree.leads base path = false) : tree.leadsToFile base path = false := by
  unfold leadsToFile
  split
  · rename_i resolves
    rw [tree.leads_of_resolve resolves] at nothing
    cases nothing
  · rfl

theorem leads_join_eq_false {base : Location} {dir : RawText} {place : Location}
    (reached : EndsAt tree base dir (.directory place)) (name : FileName)
    (nothing : tree.stands? (place ++ [name]) = none) :
    tree.leads base (Path.join dir name.bytes) = false := by
  refine Bool.eq_false_iff.mpr fun leads => ?_
  obtain ⟨found, crossed, _, all⟩ := ((tree.leads_iff_present base _).mp leads).ends
  obtain ⟨_, last⟩ := (tree.endsAt_join_iff base dir place name found reached).mp ⟨crossed, all⟩
  cases last with
  | directory _ _ _ _ _ stands => cases nothing.symm.trans stands
  | file _ _ _ stands => cases nothing.symm.trans stands
  | link _ _ _ _ _ _ stands => cases nothing.symm.trans stands

/-- A link in a directory is found only if the path that it holds ends somewhere. -/
theorem target_of_present_link (base : Location) (dir : RawText) (place : Location)
    (name : FileName) (target : RawText) (reached : EndsAt tree base dir (.directory place))
    (stands : tree.stands? (place ++ [name]) = some (.link target))
    (present : Present tree base (Path.join dir name.bytes)) :
    ∃ found, EndsAt tree place target found := by
  obtain ⟨found, all, _, leads⟩ := present.ends
  obtain ⟨_, last⟩ := (tree.endsAt_join_iff base dir place name found reached).mp ⟨all, leads⟩
  cases last with
  | directory _ _ _ _ _ other => simp [stands] at other
  | file _ _ _ other => simp [stands] at other
  | link more _ _ held _ _ other follows =>
    rw [stands] at other
    cases other
    rw [List.append_nil] at follows
    exact ⟨found, more, follows⟩

end PatternLint.FileTree
