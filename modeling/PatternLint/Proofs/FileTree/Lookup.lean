import Mathlib.Data.List.Nodup
import PatternLint.FileTree.Lookup

namespace PatternLint.FileTree

theorem mem_entries_of_stands (tree : FileTree) (location : Location) (entry : Entry)
    (below : location ≠ []) (found : tree.stands? location = some entry) :
    (location, entry) ∈ tree.entries := by
  simp only [stands?, if_neg below, Option.map_eq_some_iff] at found
  obtain ⟨item, found, same⟩ := found
  have place := List.find?_some found
  simp only [decide_eq_true_eq] at place
  rw [← place, ← same]
  exact List.mem_of_find?_eq_some found

theorem mem_directories_of_stands (tree : FileTree) (directory : Location)
    (found : tree.stands? directory = some .directory) : directory ∈ tree.directories := by
  rw [directories, mem_directoriesOf_iff]
  by_cases root : directory = []
  · exact Or.inl root
  · exact Or.inr ⟨_, tree.mem_entries_of_stands directory .directory root found, rfl, rfl⟩

theorem mem_directories_of_inside (tree : FileTree) (directory : Location) (name : FileName)
    (entry : Entry) (inside : (directory ++ [name], entry) ∈ tree.entries) :
    directory ∈ tree.directories := by
  have above := tree.closed _ inside
  rw [List.dropLast_concat] at above
  exact above

theorem dropLast_mem_directories (tree : FileTree) (directory : Location)
    (present : directory ∈ tree.directories) : directory.dropLast ∈ tree.directories := by
  rcases (mem_directoriesOf_iff _ _).mp present with root | ⟨item, member, _, same⟩
  · rw [root] at present ⊢
    exact present
  · rw [← same]
    exact tree.closed item member

theorem childOf?_eq_some_iff (directory : Location) (item : Location × Entry) (name : FileName)
    (entry : Entry) :
    childOf? directory item = some (name, entry) ↔ item = (directory ++ [name], entry) := by
  unfold childOf?
  rcases List.eq_nil_or_concat item.1 with root | ⟨above, last, parts⟩
  · simp [root, Prod.ext_iff]
  · rw [List.concat_eq_append] at parts
    simp only [parts, List.getLast?_append, List.getLast?_singleton, Option.some_or,
      List.dropLast_concat, Prod.ext_iff]
    by_cases same : above = directory
    · simp [same]
    · simp [same]

theorem mem_children_iff (tree : FileTree) (directory : Location) (name : FileName)
    (entry : Entry) :
    (name, entry) ∈ tree.children directory ↔ (directory ++ [name], entry) ∈ tree.entries := by
  rw [children, List.mem_mergeSort, List.mem_filterMap]
  simp only [childOf?_eq_some_iff, exists_eq_right]

theorem stands_eq_some_iff (tree : FileTree) (location : Location) (entry : Entry)
    (below : location ≠ []) :
    tree.stands? location = some entry ↔ (location, entry) ∈ tree.entries := by
  constructor
  · exact tree.mem_entries_of_stands location entry below
  · intro present
    simp only [stands?, if_neg below, Option.map_eq_some_iff]
    cases found : tree.entries.find? fun item => item.1 = location with
    | none => simpa using List.find?_eq_none.mp found _ present
    | some item =>
      have place := List.find?_some found
      simp only [decide_eq_true_eq] at place
      have same : item = (location, entry) :=
        List.inj_on_of_nodup_map tree.distinct (List.mem_of_find?_eq_some found) present place
      exact ⟨item, rfl, by rw [same]⟩

theorem mem_children_iff_stands (tree : FileTree) (directory : Location) (name : FileName)
    (entry : Entry) :
    (name, entry) ∈ tree.children directory ↔
      tree.stands? (directory ++ [name]) = some entry := by
  rw [mem_children_iff, stands_eq_some_iff tree _ entry (by simp)]

theorem children_names_nodup (tree : FileTree) (directory : Location) :
    ((tree.children directory).map Prod.fst).Nodup := by
  have distinct : (tree.entries.filterMap (childOf? directory)).Pairwise
      fun one other => one.1 ≠ other.1 := by
    rw [List.pairwise_filterMap]
    have apart := List.pairwise_map.mp tree.distinct
    refine apart.imp ?_
    intro item other different one first two second same
    rw [childOf?_eq_some_iff] at first second
    exact different (by rw [first, second, same])
  rw [List.Nodup, List.pairwise_map]
  exact (List.mergeSort_perm _ _).symm.pairwise distinct fun different => different.symm

/-- `Leads tree links place list found`: from the directory `place` the steps end at `found`, over
so many links. -/
inductive Leads (tree : FileTree) : Nat → Location → List Step → Found → Prop
  | arrived (place : Location) : Leads tree 0 place [] (.directory place)
  | here (links : Nat) (place : Location) (rest : List Step) (found : Found) :
    Leads tree links place rest found → Leads tree links place (.here :: rest) found
  | up (links : Nat) (place : Location) (rest : List Step) (found : Found) :
    Leads tree links place.dropLast rest found → Leads tree links place (.up :: rest) found
  | directory (links : Nat) (place : Location) (name : FileName) (rest : List Step)
    (found : Found) :
    tree.stands? (place ++ [name]) = some .directory →
      Leads tree links (place ++ [name]) rest found →
        Leads tree links place (.down name :: rest) found
  | file (place : Location) (name : FileName) (bytes : ByteArray) :
    tree.stands? (place ++ [name]) = some (.file bytes) →
      Leads tree 0 place [.down name] (.file (place ++ [name]) bytes)
  | link (links : Nat) (place : Location) (name : FileName) (target : RawText) (rest : List Step)
    (found : Found) :
    tree.stands? (place ++ [name]) = some (.link target) →
      Leads tree links (beginning place target) (steps target ++ rest) found →
        Leads tree (links + 1) place (.down name :: rest) found

theorem leads_of_follow (tree : FileTree) (links : Nat) (place : Location) (list : List Step)
    (found : Found) (ends : tree.follow links place list = .ok found) :
    ∃ crossed ≤ links, Leads tree crossed place list found := by
  fun_induction follow tree links place list with
  | case1 links place =>
    injection ends with same
    exact ⟨0, Nat.zero_le links, same ▸ .arrived place⟩
  | case2 links place rest ih =>
    obtain ⟨crossed, few, leads⟩ := ih ends
    exact ⟨crossed, few, .here crossed place rest found leads⟩
  | case3 links place rest ih =>
    obtain ⟨crossed, few, leads⟩ := ih ends
    exact ⟨crossed, few, .up crossed place rest found leads⟩
  | case4 => cases ends
  | case5 => cases ends
  | case6 links place name rest stands ih =>
    obtain ⟨crossed, few, leads⟩ := ih ends
    exact ⟨crossed, few, .directory crossed place name rest found stands leads⟩
  | case7 links place name rest bytes stands last =>
    rw [List.isEmpty_iff] at last
    injection ends with same
    subst last same
    exact ⟨0, Nat.zero_le links, .file place name bytes stands⟩
  | case8 => cases ends
  | case9 => cases ends
  | case10 place name rest target stands links ih =>
    obtain ⟨crossed, few, leads⟩ := ih ends
    exact ⟨crossed + 1, Nat.succ_le_succ few,
      .link crossed place name target rest found stands leads⟩

theorem follow_of_leads (tree : FileTree) (crossed : Nat) (place : Location) (list : List Step)
    (found : Found) (leads : Leads tree crossed place list found) (links : Nat)
    (few : crossed ≤ links) : tree.follow links place list = .ok found := by
  induction leads generalizing links with
  | arrived place => rw [follow]
  | here crossed place rest found _ ih =>
    rw [follow]
    exact ih links few
  | up crossed place rest found _ ih =>
    rw [follow]
    exact ih links few
  | directory crossed place name rest found stands _ ih =>
    rw [follow, stands]
    exact ih links few
  | file place name bytes stands =>
    rw [follow, stands]
    rfl
  | link crossed place name target rest found stands _ ih =>
    cases links with
    | zero => exact absurd few (Nat.not_succ_le_zero crossed)
    | succ links =>
      rw [follow, stands]
      exact ih links (Nat.le_of_succ_le_succ few)

theorem follow_eq_ok_iff (tree : FileTree) (links : Nat) (place : Location) (list : List Step)
    (found : Found) :
    tree.follow links place list = .ok found ↔
      ∃ crossed ≤ links, Leads tree crossed place list found := by
  constructor
  · exact tree.leads_of_follow links place list found
  · intro holds
    rcases holds with ⟨crossed, few, leads⟩
    exact tree.follow_of_leads crossed place list found leads links few

theorem resolveDirectory_eq_ok_iff (tree : FileTree) (base : Location) (path : RawText)
    (place : Location) :
    tree.resolveDirectory base path = .ok place ↔
      tree.resolve base path = .ok (.directory place) := by
  unfold resolveDirectory
  rcases tree.resolve base path with fault | found
  · exact ⟨nofun, nofun⟩
  · cases found with
    | file location bytes => exact ⟨nofun, nofun⟩
    | directory location =>
      constructor
      · intro ends
        injection ends with same
        rw [same]
      · intro ends
        injection ends with same
        injection same with same
        rw [same]
        rfl

theorem read_eq_ok_iff (tree : FileTree) (base : Location) (path : RawText) (bytes : ByteArray) :
    tree.read base path = .ok bytes ↔
      ∃ location, tree.resolve base path = .ok (.file location bytes) := by
  unfold read
  rcases tree.resolve base path with fault | found
  · exact iff_of_false nofun nofun
  · cases found with
    | file location content =>
      constructor
      · intro ends
        injection ends with same
        exact ⟨location, by rw [same]⟩
      · rintro ⟨_, ends⟩
        injection ends with same
        injection same with _ same
        rw [same]
        rfl
    | directory location => exact iff_of_false nofun nofun

end PatternLint.FileTree
