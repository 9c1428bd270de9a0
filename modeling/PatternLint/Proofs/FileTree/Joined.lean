import PatternLint.Proofs.FileTree.Lookup
import PatternLint.Proofs.FileTree.Names

namespace PatternLint.FileTree

variable (tree : FileTree)

theorem leads_append (crossed more : Nat) (place middle : Location) (list rest : List Step)
    (found : Found) (first : Leads tree crossed place list (.directory middle))
    (second : Leads tree more middle rest found) :
    Leads tree (crossed + more) place (list ++ rest) found := by
  -- The steps of a link stand before those that are left, so the second part stays at the end.
  generalize ends : Found.directory middle = reached at first
  induction first with
  | arrived place =>
    injection ends with same
    subst same
    rwa [Nat.zero_add]
  | here crossed place list _ _ ih => exact .here _ place _ found (ih ends)
  | up crossed place list _ _ ih => exact .up _ place _ found (ih ends)
  | directory crossed place name list _ stands _ ih =>
    exact .directory _ place name _ found stands (ih ends)
  | file => cases ends
  | link crossed place name target list _ stands _ ih =>
    rw [Nat.add_right_comm]
    apply Leads.link _ place name target (list ++ rest) found stands
    rw [← List.append_assoc]
    exact ih ends

theorem leads_of_leads_here (crossed : Nat) (place reached : Location) (list : List Step)
    (leads : Leads tree crossed place (list ++ [.here]) (.directory reached)) :
    Leads tree crossed place list (.directory reached) := by
  generalize whole : list ++ [.here] = all at leads
  generalize ends : Found.directory reached = found at leads
  induction leads generalizing list with
  | arrived place => simp at whole
  | here crossed place rest found leads ih =>
    cases list with
    | nil =>
      simp only [List.nil_append, List.cons.injEq, true_and] at whole
      exact whole ▸ leads
    | cons step list =>
      obtain ⟨same, later⟩ := List.cons.inj whole
      subst same
      exact .here crossed place list _ (ih list later ends)
  | up crossed place rest found _ ih =>
    cases list with
    | nil => simp at whole
    | cons step list =>
      obtain ⟨same, later⟩ := List.cons.inj whole
      subst same
      exact .up crossed place list _ (ih list later ends)
  | directory crossed place name rest found stands _ ih =>
    cases list with
    | nil => simp at whole
    | cons step list =>
      obtain ⟨same, later⟩ := List.cons.inj whole
      subst same
      exact .directory crossed place name list _ stands (ih list later ends)
  | file => cases ends
  | link crossed place name target rest found stands _ ih =>
    cases list with
    | nil => simp at whole
    | cons step list =>
      obtain ⟨same, later⟩ := List.cons.inj whole
      subst same
      apply Leads.link crossed place name target list _ stands
      exact ih _ (by rw [List.append_assoc, ← later]; rfl) ends

theorem stepOf_fileName (name : FileName) : stepOf name.bytes = .down name := by
  have read : FileName.ofBytes? name.bytes = some name := by
    rw [FileName.ofBytes?, dif_pos name.valid]
  rw [stepOf, if_neg (isName_fileName name).notUp, read]

theorem steps_join (crossed : Nat) (place reached : Location) (root path : RawText)
    (given : root ≠ []) (relative : Path.isAbsolute path = false)
    (leads : Leads tree crossed place (steps root) (.directory reached)) :
    ∃ above, steps (Path.join root path) = above ++ steps path ∧
      Leads tree crossed place above (.directory reached) := by
  unfold Path.join
  rw [if_neg (by simp [relative, given])]
  split
  · rename_i closed
    obtain ⟨body, parts⟩ := List.getLast?_eq_some_iff.mp closed
    have whole : root ++ path = body ++ Path.slash :: path := by simp [parts]
    refine ⟨steps body, ?_, ?_⟩
    · rw [whole, steps, Text.pieces_append_mark, List.map_append]
      rfl
    · apply tree.leads_of_leads_here
      rw [parts, steps, Text.pieces_append_mark, List.map_append] at leads
      exact leads
  · refine ⟨steps root, ?_, leads⟩
    rw [steps, Text.pieces_append_mark, List.map_append]
    rfl

/-- A path ends at one thing only, however many links are allowed for. -/
theorem leads_unique (crossed more : Nat) (place : Location) (list : List Step)
    (found other : Found) (first : Leads tree crossed place list found)
    (second : Leads tree more place list other) : found = other := by
  have one := tree.follow_of_leads crossed place list found first _ (Nat.le_max_left crossed more)
  have two := tree.follow_of_leads more place list other second _ (Nat.le_max_right crossed more)
  exact Except.ok.inj (one.symm.trans two)

theorem leads_split_nil (crossed : Nat) (place : Location) (rest : List Step) (found : Found)
    (leads : Leads tree crossed place rest found) :
    ∃ upper lower middle, Leads tree upper place [] (.directory middle) ∧
      Leads tree lower middle rest found :=
  ⟨0, crossed, place, .arrived place, leads⟩

theorem leads_split (crossed : Nat) (place : Location) (list rest : List Step) (found : Found)
    (given : rest ≠ []) (leads : Leads tree crossed place (list ++ rest) found) :
    ∃ upper lower middle, Leads tree upper place list (.directory middle) ∧
      Leads tree lower middle rest found := by
  generalize whole : list ++ rest = all at leads
  induction leads generalizing list with
  | arrived place => exact absurd (List.append_eq_nil_iff.mp whole).2 given
  | here crossed place after found leads ih =>
    cases list with
    | nil =>
      obtain rfl : rest = _ := whole
      exact tree.leads_split_nil _ _ _ _ (.here crossed place after found leads)
    | cons step list =>
      obtain ⟨rfl, later⟩ := List.cons.inj whole
      obtain ⟨upper, lower, middle, first, second⟩ := ih list later
      exact ⟨upper, lower, middle, .here upper place list _ first, second⟩
  | up crossed place after found leads ih =>
    cases list with
    | nil =>
      obtain rfl : rest = _ := whole
      exact tree.leads_split_nil _ _ _ _ (.up crossed place after found leads)
    | cons step list =>
      obtain ⟨rfl, later⟩ := List.cons.inj whole
      obtain ⟨upper, lower, middle, first, second⟩ := ih list later
      exact ⟨upper, lower, middle, .up upper place list _ first, second⟩
  | directory crossed place name after found stands leads ih =>
    cases list with
    | nil =>
      obtain rfl : rest = _ := whole
      exact tree.leads_split_nil _ _ _ _ (.directory crossed place name after found stands leads)
    | cons step list =>
      obtain ⟨rfl, later⟩ := List.cons.inj whole
      obtain ⟨upper, lower, middle, first, second⟩ := ih list later
      exact ⟨upper, lower, middle, .directory upper place name list _ stands first, second⟩
  | file place name bytes stands =>
    cases list with
    | nil =>
      obtain rfl : rest = _ := whole
      exact tree.leads_split_nil _ _ _ _ (.file place name bytes stands)
    | cons step list =>
      obtain ⟨_, later⟩ := List.cons.inj whole
      exact absurd (List.append_eq_nil_iff.mp later).2 given
  | link crossed place name target after found stands leads ih =>
    cases list with
    | nil =>
      obtain rfl : rest = _ := whole
      exact tree.leads_split_nil _ _ _ _ (.link crossed place name target after found stands leads)
    | cons step list =>
      obtain ⟨rfl, later⟩ := List.cons.inj whole
      obtain ⟨upper, lower, middle, first, second⟩ :=
        ih (steps target ++ list) (by rw [List.append_assoc]; exact congrArg _ later)
      exact ⟨upper + 1, lower, middle, .link upper place name target list _ stands first, second⟩

theorem beginning_join (base : Location) (root path : RawText) (given : root ≠ [])
    (relative : Path.isAbsolute path = false) :
    beginning base (Path.join root path) = beginning base root := by
  cases root with
  | nil => exact absurd rfl given
  | cons char rest =>
    have same : Path.isAbsolute (Path.join (char :: rest) path) =
        Path.isAbsolute (char :: rest) := by
      unfold Path.join
      rw [if_neg (by simp [relative])]
      split <;> rfl
    rw [beginning, same, beginning]

/-- Where a path ends, however long it is and however many links there are on the way. -/
def EndsAt (base : Location) (path : RawText) (found : Found) : Prop :=
  ∃ crossed, Leads tree crossed (beginning base path) (steps path) found

theorem endsAt_unique (base : Location) (path : RawText) (found other : Found)
    (first : EndsAt tree base path found) (second : EndsAt tree base path other) :
    found = other := by
  obtain ⟨crossed, leads⟩ := first
  obtain ⟨more, again⟩ := second
  exact tree.leads_unique crossed more _ _ found other leads again

theorem resolve_eq_follow (base : Location) (path : RawText) (plain : 0 ∉ path)
    (given : path ≠ []) (short : path.length < pathLimit) :
    tree.resolve base path = tree.follow linkLimit (beginning base path) (steps path) := by
  rw [resolve, if_neg (by simpa using plain), if_neg (by simpa using given), if_neg (by omega)]

/-- A path that may be asked for resolves to what it leads to before too many links are crossed. -/
theorem resolve_eq_ok_iff (base : Location) (path : RawText) (found : Found) :
    tree.resolve base path = .ok found ↔
      0 ∉ path ∧ path ≠ [] ∧ path.length < pathLimit ∧
        ∃ crossed ≤ linkLimit, Leads tree crossed (beginning base path) (steps path) found := by
  rw [← follow_eq_ok_iff]
  constructor
  · intro resolves
    rw [resolve] at resolves
    split at resolves
    · cases resolves
    split at resolves
    · cases resolves
    split at resolves
    · cases resolves
    · rename_i plain given short
      exact ⟨by simpa using plain, by simpa using given, by omega, resolves⟩
  · rintro ⟨plain, given, short, follows⟩
    rw [tree.resolve_eq_follow base path plain given short, follows]

theorem endsAt_of_resolve {base : Location} {path : RawText} {found : Found}
    (resolves : tree.resolve base path = .ok found) : EndsAt tree base path found := by
  obtain ⟨_, _, _, crossed, _, leads⟩ := (tree.resolve_eq_ok_iff base path found).mp resolves
  exact ⟨crossed, leads⟩

theorem ne_nil_of_resolve {base : Location} {path : RawText} {found : Found}
    (resolves : tree.resolve base path = .ok found) : path ≠ [] :=
  ((tree.resolve_eq_ok_iff base path found).mp resolves).2.1

theorem resolve_of_leads (base : Location) (path : RawText) (found : Found) (crossed : Nat)
    (plain : 0 ∉ path) (given : path ≠ []) (short : path.length < pathLimit)
    (few : crossed ≤ linkLimit)
    (leads : Leads tree crossed (beginning base path) (steps path) found) :
    tree.resolve base path = .ok found :=
  (tree.resolve_eq_ok_iff base path found).mpr ⟨plain, given, short, crossed, few, leads⟩

/-- A path can be opened: it is not too long, nor are there too many links on the way. -/
def Openable (base : Location) (path : RawText) : Prop :=
  ∃ found, tree.resolve base path = .ok found

theorem resolve_of_endsAt {base : Location} {path : RawText} {found : Found}
    (opens : Openable tree base path) (ends : EndsAt tree base path found) :
    tree.resolve base path = .ok found := by
  obtain ⟨other, resolves⟩ := opens
  rw [resolves, tree.endsAt_unique base path found other ends (tree.endsAt_of_resolve resolves)]

theorem steps_join_name (base : Location) (dir : RawText) (place : Location) (crossed : Nat)
    (name : FileName)
    (reached : Leads tree crossed (beginning base dir) (steps dir) (.directory place)) :
    ∃ above, steps (Path.join dir name.bytes) = above ++ [.down name] ∧
      Leads tree crossed (beginning base (Path.join dir name.bytes)) above
        (.directory place) := by
  have last : steps name.bytes = [.down name] := by
    rw [steps, Text.pieces_of_notMem Path.slash _ (isName_fileName name).bare, List.map_singleton,
      stepOf_fileName]
  have relative := isAbsolute_fileName name
  by_cases given : dir = []
  · subst given
    have joined : Path.join [] name.bytes = name.bytes := by simp [Path.join]
    have alone := tree.leads_of_leads_here crossed _ place [] reached
    refine ⟨[], ?_, ?_⟩
    · rw [joined, last]
      rfl
    · rw [joined, beginning, relative]
      exact alone
  · obtain ⟨above, parts, upper⟩ :=
      tree.steps_join crossed _ place dir _ given relative reached
    rw [last] at parts
    rw [beginning_join base dir _ given relative]
    exact ⟨above, parts, upper⟩

theorem endsAt_join_iff (base : Location) (dir : RawText) (place : Location) (name : FileName)
    (found : Found) (reached : EndsAt tree base dir (.directory place)) :
    EndsAt tree base (Path.join dir name.bytes) found ↔
      ∃ crossed, Leads tree crossed place [.down name] found := by
  obtain ⟨crossed, reached⟩ := reached
  obtain ⟨above, parts, upper⟩ := tree.steps_join_name base dir place crossed name reached
  rw [EndsAt, parts]
  constructor
  · rintro ⟨all, leads⟩
    obtain ⟨first, lower, middle, directory, last⟩ :=
      tree.leads_split all _ above _ found (List.cons_ne_nil _ _) leads
    have same := tree.leads_unique first crossed _ above _ _ directory upper
    injection same with same
    exact ⟨lower, same ▸ last⟩
  · rintro ⟨more, lower⟩
    exact ⟨crossed + more, tree.leads_append crossed more _ place above _ found upper lower⟩

end PatternLint.FileTree
