import PatternLint.Proofs.FileTree.Walk

/-!
A walk on which all that names lead to can be opened. It finds what there is to find, and so does a
walk of the same directory under another path.
-/

namespace PatternLint.FileTree

section Opens

variable {tree : FileTree} {followLinks : Bool}

theorem ShowsFile.mono {opens more : Prop} (wider : opens → more) {place location : Location}
    {name : FileName} {bytes : ByteArray}
    (shows : ShowsFile tree followLinks opens place name location bytes) :
    ShowsFile tree followLinks more place name location bytes := by
  cases shows with
  | file _ content => exact .file bytes content
  | link _ _ follows opened leads => exact .link location bytes follows (wider opened) leads

theorem Enters.mono {opens more : Prop} (wider : opens → more) {entered : List Location}
    {place next : Location} {name : FileName}
    (enters : Enters tree followLinks opens entered place name next) :
    Enters tree followLinks more entered place name next := by
  cases enters with
  | directory real => exact .directory real
  | link _ follows opened leads fresh => exact .link next follows (wider opened) leads fresh

/-- The names lead a walk to what is found, if it is left open what can be opened. -/
def Reaches (tree : FileTree) (followLinks : Bool) (prunes : List FileName → Prop)
    (entered : List Location) (place : Location) (above names : List FileName) (found : Found) :
    Prop :=
  Visits tree followLinks prunes (fun _ => True) entered place above names found

variable {prunes : List FileName → Prop} {entered : List Location} {place : Location}
  {above names : List FileName} {found : Found}

theorem reaches_of_visits {opens : List FileName → Prop}
    (visits : Visits tree followLinks prunes opens entered place above names found) :
    Reaches tree followLinks prunes entered place above names found := by
  induction visits with
  | arrived => exact .arrived _ _ _
  | file entered place above name location bytes _ shows =>
    exact .file _ _ _ _ _ _ trivial (shows.mono fun _ => trivial)
  | down entered place next above name names found _ enters kept _ ih =>
    exact .down _ _ _ _ _ _ _ trivial (enters.mono fun _ => trivial) kept ih

theorem visits_of_reaches {opens : List FileName → Prop}
    (all : ∀ names found, Reaches tree followLinks prunes entered place above names found →
      opens (above ++ names))
    (reaches : Reaches tree followLinks prunes entered place above names found) :
    Visits tree followLinks prunes opens entered place above names found := by
  have here := fun (entered : List Location) (place : Location) (above : List FileName)
    (all : ∀ names found, Reaches tree followLinks prunes entered place above names found →
      opens (above ++ names)) => List.append_nil above ▸ all [] _ (.arrived entered place above)
  unfold Reaches at reaches
  induction reaches with
  | arrived => exact .arrived _ _ _
  | file entered place above name location bytes opened shows =>
    have opened := all [name] _ (.file entered place above name location bytes trivial shows)
    exact .file _ _ _ _ _ _ (here _ _ _ all) (shows.mono fun _ => opened)
  | down entered place next above name names found _ enters kept _ ih =>
    have opened := all [name] _ (.down entered place next above name [] _ trivial enters kept
      (.arrived _ _ _))
    refine .down _ _ _ _ _ _ _ (here _ _ _ all) (enters.mono fun _ => opened) kept (ih ?_)
    intro names found below
    rw [List.append_assoc]
    exact all (name :: names) found (.down _ _ _ _ _ _ _ trivial enters kept below)

end Opens

/-- All that a walk is led to by names can be opened under the path of its root. -/
def Unhindered (tree : FileTree) (base : Location) (followLinks : Bool)
    (prunes : List FileName → Prop) (root : RawText) (place : Location) : Prop :=
  ∀ names found, Reaches tree followLinks prunes [place] place [] names found →
    Openable tree base (pathBelow root names)

section Entry

variable {tree : FileTree} {base : Location} {followLinks : Bool} {prunes : RawText → Bool}
  {path : RawText} {entered : List RawText} {on : List Location} {place : Location}
  {name : FileName} {entry : Entry}
  (reached : EndsAt tree base path (.directory place))
  (stands : tree.stands? (place ++ [name]) = some entry)

include reached stands

theorem filesOf_entryMet_of_showsFile (opened : Openable tree base (Path.join path name.bytes))
    (shows : ∃ location bytes, ShowsFile tree followLinks True place name location bytes) :
    filesOf (tree.entryMet base followLinks prunes entered path (name, entry)) =
      [Path.join path name.bytes] := by
  obtain ⟨location, bytes, shows⟩ := shows
  have shown : tree.onward base followLinks entered (Path.join path name.bytes) entry = .file :=
    (onward_eq_file_iff reached stands).mpr ⟨location, bytes, shows.mono fun _ => opened⟩
  simp only [entryMet, shown]
  rfl

variable (trail : Trail tree base path entered on) (opens : Openable tree base path)

include trail opens

theorem filesOf_entryMet_of_enters (opened : Openable tree base (Path.join path name.bytes))
    {next : Location} (enters : Enters tree followLinks True on place name next)
    (kept : prunes (Path.join path name.bytes) = false) :
    filesOf (tree.entryMet base followLinks prunes entered path (name, entry)) =
      filesOf (tree.walk base followLinks prunes (Path.join path name.bytes :: entered)
        (Path.join path name.bytes)) := by
  have goes := (onward_eq_directory_iff reached trail opens stands).mpr
    ⟨next, enters.mono fun _ => opened⟩
  simp only [entryMet, goes, kept, Bool.false_eq_true, if_false]

theorem filesOf_entryMet_of_neither
    (none : ¬ ∃ location bytes, ShowsFile tree followLinks True place name location bytes)
    (nowhere : ∀ next, Enters tree followLinks True on place name next →
      prunes (Path.join path name.bytes) = true) :
    filesOf (tree.entryMet base followLinks prunes entered path (name, entry)) = [] := by
  cases onward : tree.onward base followLinks entered (Path.join path name.bytes) entry with
  | file =>
    obtain ⟨location, bytes, shows⟩ := (onward_eq_file_iff reached stands).mp onward
    exact absurd ⟨location, bytes, shows.mono fun _ => trivial⟩ none
  | directory =>
    obtain ⟨next, enters⟩ := (onward_eq_directory_iff reached trail opens stands).mp onward
    simp only [entryMet, onward, if_pos (nowhere next (enters.mono fun _ => trivial))]
    rfl
  | hindered hindrance =>
    simp only [entryMet, onward]
    rfl
  | nothing =>
    simp only [entryMet, onward]
    rfl

end Entry

def SameBelow (root other path elsewhere : RawText) : Prop :=
  ∃ names, names ≠ [] ∧ path = pathBelow root names ∧ elsewhere = pathBelow other names

theorem forall₂_flatMap {α β γ : Type} {related : β → γ → Prop} (items : List α) (one : α → List β)
    (other : α → List γ) (each : ∀ item ∈ items, List.Forall₂ related (one item) (other item)) :
    List.Forall₂ related (items.flatMap one) (items.flatMap other) := by
  induction items with
  | nil => exact .nil
  | cons item rest ih =>
    obtain ⟨first, later⟩ := List.forall_mem_cons.mp each
    rw [List.flatMap_cons, List.flatMap_cons]
    exact List.rel_append first (ih later)

section Same

variable {tree : FileTree} {base elsewhere : Location} {followLinks : Bool} {root other : RawText}
  {prunes again : RawText → Bool} {entered more : List RawText} {on : List Location}
  {place : Location} {above : List FileName} {name : FileName} {entry : Entry}

theorem reaches_down {further : Location}
    (enters : Enters tree followLinks True on place name further)
    (kept : prunes (pathBelow root (above ++ [name])) = false) {names : List FileName}
    {found : Found}
    (later : Reaches tree followLinks (fun names => prunes (pathBelow root names) = true)
      (further :: on) further (above ++ [name]) names found) :
    Reaches tree followLinks (fun names => prunes (pathBelow root names) = true) on place above
      (name :: names) found :=
  .down _ _ _ _ _ _ _ trivial enters (Bool.eq_false_iff.mp kept) later

variable (agree : again (pathBelow other (above ++ [name])) =
    prunes (pathBelow root (above ++ [name])))
  (reached : EndsAt tree base (pathBelow root above) (.directory place))
  (also : EndsAt tree elsewhere (pathBelow other above) (.directory place))
  (trail : Trail tree base (pathBelow root above) entered on)
  (second : Trail tree elsewhere (pathBelow other above) more on)
  (opens : Openable tree base (pathBelow root above))
  (opened : Openable tree elsewhere (pathBelow other above))
  (stands : tree.stands? (place ++ [name]) = some entry)
  (free : ∀ found,
    Reaches tree followLinks (fun names => prunes (pathBelow root names) = true) on place above
      [name] found →
    Openable tree base (pathBelow root (above ++ [name])) ∧
      Openable tree elsewhere (pathBelow other (above ++ [name])))

include agree reached also trail second opens opened stands free

theorem filesOf_entryMet_same
    (deeper : ∀ further, Enters tree followLinks True on place name further →
      prunes (pathBelow root (above ++ [name])) = false →
      List.Forall₂ (SameBelow root other)
        (filesOf (tree.walk base followLinks prunes
          (pathBelow root (above ++ [name]) :: entered) (pathBelow root (above ++ [name]))))
        (filesOf (tree.walk elsewhere followLinks again
          (pathBelow other (above ++ [name]) :: more) (pathBelow other (above ++ [name]))))) :
    List.Forall₂ (SameBelow root other)
      (filesOf (tree.entryMet base followLinks prunes entered (pathBelow root above)
        (name, entry)))
      (filesOf (tree.entryMet elsewhere followLinks again more (pathBelow other above)
        (name, entry))) := by
  have next : pathBelow root (above ++ [name]) = Path.join (pathBelow root above) name.bytes :=
    pathBelow_append root above [name]
  have nextOther : pathBelow other (above ++ [name]) =
      Path.join (pathBelow other above) name.bytes := pathBelow_append other above [name]
  by_cases shows : ∃ location bytes, ShowsFile tree followLinks True place name location bytes
  · obtain ⟨location, bytes, file⟩ := shows
    have both := free _ (.file on place above name location bytes trivial file)
    rw [next, nextOther] at both
    rw [filesOf_entryMet_of_showsFile reached stands both.1 ⟨location, bytes, file⟩,
      filesOf_entryMet_of_showsFile also stands both.2 ⟨location, bytes, file⟩]
    exact .cons ⟨above ++ [name], by simp, next.symm, nextOther.symm⟩ .nil
  by_cases goes : ∃ further, Enters tree followLinks True on place name further ∧
      prunes (pathBelow root (above ++ [name])) = false
  · obtain ⟨further, enters, kept⟩ := goes
    have both := free _ (reaches_down enters kept (.arrived _ _ _))
    have same := deeper further enters kept
    have keptOther := agree.trans kept
    rw [next] at kept
    rw [nextOther] at keptOther
    rw [next, nextOther] at both same
    rwa [filesOf_entryMet_of_enters reached stands trail opens both.1 enters kept,
      filesOf_entryMet_of_enters also stands second opened both.2 enters keptOther]
  · have pruned : ∀ further, Enters tree followLinks True on place name further →
        prunes (pathBelow root (above ++ [name])) = true := by
      intro further enters
      by_contra kept
      exact goes ⟨further, enters, by simpa using kept⟩
    have prunedOther : ∀ further, Enters tree followLinks True on place name further →
        again (pathBelow other (above ++ [name])) = true :=
      fun further enters => agree.trans (pruned further enters)
    rw [next] at pruned
    rw [nextOther] at prunedOther
    rw [filesOf_entryMet_of_neither reached stands trail opens shows pruned,
      filesOf_entryMet_of_neither also stands second opened shows prunedOther]
    exact .nil

end Same

/-- Where nothing hinders two walks of one directory, they list the same files one by one. -/
theorem filesOf_walk_same {tree : FileTree} {base elsewhere : Location} {followLinks : Bool}
    (root other : RawText) {prunes again : RawText → Bool}
    (agree : ∀ names, names ≠ [] → again (pathBelow other names) = prunes (pathBelow root names))
    (entered more : List RawText) (on : List Location) (place : Location) (above : List FileName)
    (reached : EndsAt tree base (pathBelow root above) (.directory place))
    (also : EndsAt tree elsewhere (pathBelow other above) (.directory place))
    (trail : Trail tree base (pathBelow root above) entered on)
    (second : Trail tree elsewhere (pathBelow other above) more on)
    (free : ∀ names found,
      Reaches tree followLinks (fun names => prunes (pathBelow root names) = true) on place above
        names found →
      Openable tree base (pathBelow root (above ++ names)) ∧
        Openable tree elsewhere (pathBelow other (above ++ names))) :
    List.Forall₂ (SameBelow root other)
      (filesOf (tree.walk base followLinks prunes entered (pathBelow root above)))
      (filesOf (tree.walk elsewhere followLinks again more (pathBelow other above))) := by
  generalize whole : pathBelow root above = path at reached trail ⊢
  induction path using tree.walk_induction base generalizing entered more on place above with
  | step path ih =>
    subst whole
    have start := free [] _ (.arrived on place above)
    rw [List.append_nil] at start
    obtain ⟨opens, opened⟩ := start
    have first := tree.resolve_of_endsAt opens reached
    rw [filesOf_walk_of_directory _ _ _ _ _ _ place first,
      filesOf_walk_of_directory _ _ _ _ _ _ place (tree.resolve_of_endsAt opened also)]
    refine forall₂_flatMap _ _ _ ?_
    rintro ⟨name, entry⟩ present
    have stands := (tree.mem_children_iff_stands place name entry).mp present
    refine filesOf_entryMet_same (agree _ (by simp)) reached also trail second opens opened stands
      (free [name]) ?_
    intro further enters kept
    have next := pathBelow_append root above [name]
    have nextOther := pathBelow_append other above [name]
    have ends := endsAt_of_enters reached enters
    have endsOther : EndsAt tree elsewhere (pathBelow other (above ++ [name]))
        (.directory further) := nextOther ▸ endsAt_of_enters also enters
    rw [next]
    refine ih place name first _ _ _ further (above ++ [name]) endsOther
      (second.next opened endsOther) ?_ next ends (trail.next opens ends)
    intro names found later
    rw [List.append_assoc]
    exact free (name :: names) found (reaches_down enters kept later)

end PatternLint.FileTree
