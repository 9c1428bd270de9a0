import Mathlib.Data.List.Nodup
import PatternLint.FileTree.Walk
import PatternLint.Proofs.FileTree.Joined

/-!
What a walk finds. `Visits` says, entry by entry, where names lead down from a directory; a walk
lists just the files among that, each once, if it is told which paths can be opened.
-/

namespace PatternLint.FileTree

def LinkLeads (tree : FileTree) (place : Location) (name : FileName) (found : Found) : Prop :=
  (∃ target, tree.stands? (place ++ [name]) = some (.link target)) ∧
    ∃ crossed, Leads tree crossed place [.down name] found

/-- An entry is a file or, where links are followed and this one can be opened, leads to one. -/
inductive ShowsFile (tree : FileTree) (followLinks : Bool) (opens : Prop) (place : Location)
    (name : FileName) : Location → ByteArray → Prop
  | file (bytes : ByteArray) : tree.stands? (place ++ [name]) = some (.file bytes) →
      ShowsFile tree followLinks opens place name (place ++ [name]) bytes
  | link (location : Location) (bytes : ByteArray) : followLinks = true → opens →
      LinkLeads tree place name (.file location bytes) →
        ShowsFile tree followLinks opens place name location bytes

/-- From a directory an entry takes a walk into the next one. Only behind a link is it asked whether
that one is on the way already. -/
inductive Enters (tree : FileTree) (followLinks : Bool) (opens : Prop) (entered : List Location)
    (place : Location) (name : FileName) : Location → Prop
  | directory : tree.stands? (place ++ [name]) = some .directory →
      Enters tree followLinks opens entered place name (place ++ [name])
  | link (next : Location) : followLinks = true → opens →
      LinkLeads tree place name (.directory next) → next ∉ entered →
        Enters tree followLinks opens entered place name next

/-- The names lead a walk from a directory down to what is found, `above` being the names that led
there. No directory on the way is passed over, and each one can be opened, as can be each link. -/
inductive Visits (tree : FileTree) (followLinks : Bool) (prunes opens : List FileName → Prop) :
    List Location → Location → List FileName → List FileName → Found → Prop
  | arrived (entered : List Location) (place : Location) (above : List FileName) :
    Visits tree followLinks prunes opens entered place above [] (.directory place)
  | file (entered : List Location) (place : Location) (above : List FileName) (name : FileName)
    (location : Location) (bytes : ByteArray) :
    opens above → ShowsFile tree followLinks (opens (above ++ [name])) place name location bytes →
      Visits tree followLinks prunes opens entered place above [name] (.file location bytes)
  | down (entered : List Location) (place next : Location) (above : List FileName)
    (name : FileName) (names : List FileName) (found : Found) :
    opens above → Enters tree followLinks (opens (above ++ [name])) entered place name next →
      ¬ prunes (above ++ [name]) →
        Visits tree followLinks prunes opens (next :: entered) next (above ++ [name]) names found →
          Visits tree followLinks prunes opens entered place above (name :: names) found

variable (tree : FileTree) (base : Location) (followLinks : Bool)

/-- A walk goes down from path to path, so what holds of a directory once it holds of those in it
holds of all. -/
theorem walk_induction {motive : RawText → Prop}
    (step : ∀ path, (∀ place (name : FileName), tree.resolve base path = .ok (.directory place) →
      motive (Path.join path name.bytes)) → motive path) (path : RawText) : motive path :=
  step path fun _ name _ => walk_induction step (Path.join path name.bytes)
  termination_by pathLimit - path.length
  decreasing_by
    rename_i opened
    have short := tree.length_lt_of_resolve base path _ opened
    have longer := join_name_length path name
    omega

section Entries

variable (prunes : RawText → Bool)

def entryMet (entered : List RawText) (path : RawText) (child : FileName × Entry) : List Met :=
  let next := Path.join path child.1.bytes
  match tree.onward base followLinks entered next child.2 with
  | .file => [.file next]
  | .directory =>
    if prunes next then [] else tree.walk base followLinks prunes (next :: entered) next
  | .hindered hindrance => [.hindered hindrance]
  | .nothing => []

theorem walk_of_directory (entered : List RawText) (path : RawText) (place : Location)
    (opened : tree.resolve base path = .ok (.directory place)) :
    tree.walk base followLinks prunes entered path =
      (tree.children place).flatMap (tree.entryMet base followLinks prunes entered path) := by
  rw [walk]
  split
  · rename_i failed
    rw [opened] at failed
    cases failed
  · rename_i file
    rw [opened] at file
    cases file
  · rename_i other same
    rw [opened] at same
    cases same
    rfl

theorem notMem_walk_of_unopened (entered : List RawText) (path file : RawText)
    (unopened : ∀ place, tree.resolve base path ≠ .ok (.directory place)) :
    .file file ∉ tree.walk base followLinks prunes entered path := by
  rw [walk]
  split
  · simp
  · simp
  · rename_i place opened
    exact absurd opened (unopened place)

theorem names_of_mem_entryMet (entered : List RawText) (path file : RawText)
    (child : FileName × Entry)
    (below : ∀ entered, .file file ∈ tree.walk base followLinks prunes entered
      (Path.join path child.1.bytes) →
        ∃ names, names ≠ [] ∧ file = pathBelow (Path.join path child.1.bytes) names)
    (member : .file file ∈ tree.entryMet base followLinks prunes entered path child) :
    ∃ names, file = pathBelow path (child.1 :: names) := by
  unfold entryMet at member
  dsimp only at member
  split at member
  · rw [List.mem_singleton, Met.file.injEq] at member
    exact ⟨[], member⟩
  · split at member
    · cases member
    · obtain ⟨names, _, reached⟩ := below _ member
      exact ⟨names, reached⟩
  · simp at member
  · cases member

theorem names_of_mem_walk (entered : List RawText) (path file : RawText)
    (member : .file file ∈ tree.walk base followLinks prunes entered path) :
    ∃ names, names ≠ [] ∧ file = pathBelow path names := by
  induction path using tree.walk_induction base generalizing entered with
  | step path ih =>
    by_cases opened : ∃ place, tree.resolve base path = .ok (.directory place)
    · obtain ⟨place, opened⟩ := opened
      rw [walk_of_directory _ _ _ _ _ _ place opened, List.mem_flatMap] at member
      obtain ⟨child, _, member⟩ := member
      obtain ⟨names, reached⟩ := tree.names_of_mem_entryMet base followLinks prunes entered path
        file child (fun more => ih place child.1 opened more) member
      exact ⟨child.1 :: names, List.cons_ne_nil _ _, reached⟩
    · exact absurd member (tree.notMem_walk_of_unopened _ _ _ _ _ _ (not_exists.mp opened))

end Entries

def filesOf (met : List Met) : List RawText := met.filterMap Met.file?

theorem mem_filesOf_iff (met : List Met) (file : RawText) :
    file ∈ filesOf met ↔ .file file ∈ met := by
  rw [filesOf, List.mem_filterMap]
  constructor
  · rintro ⟨item, member, shows⟩
    cases item with
    | file path =>
      injection shows with same
      exact same ▸ member
    | hindered => cases shows
  · intro member
    exact ⟨_, member, rfl⟩

section Lists

variable (prunes : RawText → Bool)

theorem filesOf_walk_of_unopened (entered : List RawText) (path : RawText)
    (unopened : ∀ place, tree.resolve base path ≠ .ok (.directory place)) :
    filesOf (tree.walk base followLinks prunes entered path) = [] := by
  refine List.eq_nil_iff_forall_not_mem.mpr fun file member => ?_
  rw [mem_filesOf_iff] at member
  exact tree.notMem_walk_of_unopened base followLinks prunes entered path file unopened member

theorem filesOf_walk_of_directory (entered : List RawText) (path : RawText) (place : Location)
    (opened : tree.resolve base path = .ok (.directory place)) :
    filesOf (tree.walk base followLinks prunes entered path) =
      (tree.children place).flatMap fun child =>
        filesOf (tree.entryMet base followLinks prunes entered path child) := by
  rw [walk_of_directory _ _ _ _ _ _ place opened, filesOf, List.filterMap_flatMap]
  rfl

/-- No file is listed twice: below one entry by what is known of the next directory, and below two
entries since their names differ. -/
theorem filesOf_walk_nodup (entered : List RawText) (path : RawText) :
    (filesOf (tree.walk base followLinks prunes entered path)).Nodup := by
  induction path using tree.walk_induction base generalizing entered with
  | step path ih =>
    by_cases opened : ∃ place, tree.resolve base path = .ok (.directory place)
    · obtain ⟨place, opened⟩ := opened
      have given := tree.ne_nil_of_resolve opened
      rw [filesOf_walk_of_directory _ _ _ _ _ _ place opened, List.Nodup, List.pairwise_flatMap]
      constructor
      · intro child present
        simp only [entryMet]
        split
        · exact List.pairwise_singleton _ _
        · split
          · exact .nil
          · exact ih place child.1 opened _
        · exact .nil
        · exact .nil
      · refine (List.pairwise_map.mp (tree.children_names_nodup place)).imp ?_
        intro one other different first inFirst second inSecond same
        obtain ⟨names, reached⟩ := tree.names_of_mem_entryMet base followLinks prunes entered path
          first one (fun _ => tree.names_of_mem_walk base followLinks prunes _ _ _)
          ((mem_filesOf_iff _ _).mp inFirst)
        obtain ⟨others, also⟩ := tree.names_of_mem_entryMet base followLinks prunes entered path
          second other (fun _ => tree.names_of_mem_walk base followLinks prunes _ _ _)
          ((mem_filesOf_iff _ _).mp inSecond)
        rw [reached, also] at same
        have heads := pathBelow_injective given (List.cons_ne_nil _ _) (List.cons_ne_nil _ _) same
        exact different (List.cons.inj heads).1
    · rw [filesOf_walk_of_unopened _ _ _ _ _ _ (not_exists.mp opened)]
      exact .nil

/-- Passing over directories loses nothing of what is kept, as long as nothing below them is kept.
-/
theorem filter_filesOf_walk (root : RawText) (keeps : RawText → Bool)
    (lost : ∀ names rest, names ≠ [] → prunes (pathBelow root names) = true → rest ≠ [] →
      keeps (pathBelow root (names ++ rest)) = false)
    (entered : List RawText) (above : List FileName) :
    (filesOf (tree.walk base followLinks prunes entered (pathBelow root above))).filter keeps =
      (filesOf (tree.walk base followLinks (fun _ => false) entered
        (pathBelow root above))).filter keeps := by
  generalize reached : pathBelow root above = path
  induction path using tree.walk_induction base generalizing entered above with
  | step path ih =>
    by_cases opened : ∃ place, tree.resolve base path = .ok (.directory place)
    · obtain ⟨place, opened⟩ := opened
      rw [filesOf_walk_of_directory _ _ _ _ _ _ place opened,
        filesOf_walk_of_directory _ _ _ _ _ _ place opened, List.filter_flatMap,
        List.filter_flatMap]
      apply List.flatMap_congr
      intro child present
      have next : pathBelow root (above ++ [child.1]) = Path.join path child.1.bytes := by
        rw [pathBelow_append, reached]
        rfl
      simp only [entryMet]
      split
      · rfl
      · simp only [Bool.false_eq_true, if_false]
        split
        · rename_i pruned
          symm
          refine List.filter_eq_nil_iff.mpr fun file member => ?_
          obtain ⟨names, deeper, same⟩ := tree.names_of_mem_walk base followLinks _ _ _ _
            ((mem_filesOf_iff _ _).mp member)
          rw [same, ← next, ← pathBelow_append]
          rw [lost (above ++ [child.1]) names (by simp) (next ▸ pruned) deeper]
          exact Bool.false_ne_true
        · exact ih place child.1 opened _ (above ++ [child.1]) next
      · rfl
      · rfl
    · rw [filesOf_walk_of_unopened _ _ _ _ _ _ (not_exists.mp opened),
        filesOf_walk_of_unopened _ _ _ _ _ _ (not_exists.mp opened)]

end Lists

/-- The paths of the directories on the way to a path, and where these stand. All that lie above the
path have been opened. -/
structure Trail (path : RawText) (entered : List RawText) (on : List Location) : Prop where
  ends :
    List.Forall₂ (fun ancestor place => EndsAt tree base ancestor (.directory place)) entered on
  opened : ∀ ancestor ∈ entered, ancestor = path ∨ Openable tree base ancestor

section Steps

variable {tree base} {path : RawText} {entered : List RawText} {on : List Location}
  {place : Location} {name : FileName} {entry : Entry}

theorem Trail.next (trail : Trail tree base path entered on) (opens : Openable tree base path)
    {next : RawText} {location : Location} (reached : EndsAt tree base next (.directory location)) :
    Trail tree base next (next :: entered) (location :: on) where
  ends := .cons reached trail.ends
  opened := by
    intro ancestor member
    rcases List.mem_cons.mp member with same | before
    · exact .inl same
    · rcases trail.opened ancestor before with same | opened
      · exact .inr (same ▸ opens)
      · exact .inr opened

theorem Trail.exists_ancestor (trail : Trail tree base path entered on) (location : Location)
    (member : location ∈ on) :
    ∃ ancestor ∈ entered, EndsAt tree base ancestor (.directory location) := by
  obtain ⟨index, within, same⟩ := List.getElem_of_mem member
  have long : index < entered.length := trail.ends.length_eq ▸ within
  exact ⟨_, List.getElem_mem long, same ▸ trail.ends.get long within⟩

theorem Trail.exists_place (trail : Trail tree base path entered on) (ancestor : RawText)
    (member : ancestor ∈ entered) :
    ∃ place ∈ on, EndsAt tree base ancestor (.directory place) := by
  obtain ⟨index, within, same⟩ := List.getElem_of_mem member
  have long : index < on.length := trail.ends.length_eq ▸ within
  exact ⟨_, List.getElem_mem long, same ▸ trail.ends.get within long⟩

theorem Trail.find?_eq_none_iff (trail : Trail tree base path entered on)
    (opens : Openable tree base path) (location : Location) :
    entered.find? (leadsToDirectory tree base location) = none ↔ location ∉ on := by
  rw [List.find?_eq_none]
  have leads : ∀ ancestor ∈ entered, ∀ place, EndsAt tree base ancestor (.directory place) →
      (leadsToDirectory tree base location ancestor = true ↔ place = location) := by
    intro ancestor member place ends
    have opened : Openable tree base ancestor :=
      (trail.opened ancestor member).elim (fun same => same ▸ opens) id
    rw [leadsToDirectory, tree.resolve_of_endsAt opened ends]
    exact decide_eq_true_iff
  constructor
  · intro none member
    obtain ⟨ancestor, before, ends⟩ := trail.exists_ancestor location member
    exact none ancestor before ((leads ancestor before location ends).mpr rfl)
  · intro fresh ancestor before found
    obtain ⟨place, member, ends⟩ := trail.exists_place ancestor before
    exact fresh ((leads ancestor before place ends).mp found ▸ member)

theorem resolve_join_eq_ok_iff (reached : EndsAt tree base path (.directory place))
    (found : Found) :
    tree.resolve base (Path.join path name.bytes) = .ok found ↔
      Openable tree base (Path.join path name.bytes) ∧
        ∃ crossed, Leads tree crossed place [.down name] found := by
  rw [← tree.endsAt_join_iff base path place name found reached]
  constructor
  · intro resolves
    exact ⟨⟨found, resolves⟩, tree.endsAt_of_resolve resolves⟩
  · rintro ⟨opened, ends⟩
    exact tree.resolve_of_endsAt opened ends

theorem linked_eq_file_iff :
    tree.linked base entered path = .file ↔
      ∃ location bytes, tree.resolve base path = .ok (.file location bytes) := by
  unfold linked
  constructor
  · intro shown
    split at shown
    · cases shown
    · rename_i location bytes found
      exact ⟨location, bytes, found⟩
    · split at shown <;> cases shown
  · rintro ⟨location, bytes, found⟩
    rw [found]

theorem linked_eq_directory_iff :
    tree.linked base entered path = .directory ↔
      ∃ next, tree.resolve base path = .ok (.directory next) ∧
        entered.find? (leadsToDirectory tree base next) = none := by
  unfold linked
  constructor
  · intro goes
    split at goes
    · cases goes
    · cases goes
    · rename_i next found
      split at goes
      · cases goes
      · rename_i fresh
        exact ⟨next, found, fresh⟩
  · rintro ⟨next, found, fresh⟩
    rw [found]
    simp only [fresh]

variable {followLinks}

theorem onward_eq_file_iff (reached : EndsAt tree base path (.directory place))
    (stands : tree.stands? (place ++ [name]) = some entry) :
    tree.onward base followLinks entered (Path.join path name.bytes) entry = .file ↔
      ∃ location bytes, ShowsFile tree followLinks
        (Openable tree base (Path.join path name.bytes)) place name location bytes := by
  constructor
  · intro shown
    cases entry with
    | file bytes => exact ⟨_, bytes, .file bytes stands⟩
    | directory => cases shown
    | link target =>
      simp only [onward] at shown
      split at shown
      · rename_i follows
        obtain ⟨location, bytes, found⟩ := linked_eq_file_iff.mp shown
        obtain ⟨opened, leads⟩ := (resolve_join_eq_ok_iff reached _).mp found
        exact ⟨location, bytes, .link location bytes follows opened ⟨⟨target, stands⟩, leads⟩⟩
      · cases shown
  · rintro ⟨location, bytes, shows⟩
    cases shows with
    | file _ content =>
      rw [stands] at content
      cases content
      rfl
    | link _ _ follows opened leads =>
      obtain ⟨⟨target, link⟩, leads⟩ := leads
      rw [stands] at link
      cases link
      rw [onward, if_pos follows, linked_eq_file_iff]
      exact ⟨location, bytes, (resolve_join_eq_ok_iff reached _).mpr ⟨opened, leads⟩⟩

theorem onward_eq_directory_iff (reached : EndsAt tree base path (.directory place))
    (trail : Trail tree base path entered on) (opens : Openable tree base path)
    (stands : tree.stands? (place ++ [name]) = some entry) :
    tree.onward base followLinks entered (Path.join path name.bytes) entry = .directory ↔
      ∃ next, Enters tree followLinks (Openable tree base (Path.join path name.bytes)) on place
        name next := by
  constructor
  · intro goes
    cases entry with
    | file bytes => cases goes
    | directory => exact ⟨_, .directory stands⟩
    | link target =>
      simp only [onward] at goes
      split at goes
      · rename_i follows
        obtain ⟨next, found, fresh⟩ := linked_eq_directory_iff.mp goes
        obtain ⟨opened, leads⟩ := (resolve_join_eq_ok_iff reached _).mp found
        exact ⟨next, .link next follows opened ⟨⟨target, stands⟩, leads⟩
          ((trail.find?_eq_none_iff opens next).mp fresh)⟩
      · cases goes
  · rintro ⟨next, enters⟩
    cases enters with
    | directory real =>
      rw [stands] at real
      cases real
      rfl
    | link _ follows opened leads fresh =>
      obtain ⟨⟨target, link⟩, leads⟩ := leads
      rw [stands] at link
      cases link
      rw [onward, if_pos follows, linked_eq_directory_iff]
      exact ⟨next, (resolve_join_eq_ok_iff reached _).mpr ⟨opened, leads⟩,
        (trail.find?_eq_none_iff opens next).mpr fresh⟩

theorem mem_entryMet_iff (prunes : RawText → Bool) (file : RawText)
    (reached : EndsAt tree base path (.directory place))
    (trail : Trail tree base path entered on) (opens : Openable tree base path)
    (stands : tree.stands? (place ++ [name]) = some entry) :
    .file file ∈ tree.entryMet base followLinks prunes entered path (name, entry) ↔
      (file = Path.join path name.bytes ∧ ∃ location bytes,
        ShowsFile tree followLinks (Openable tree base (Path.join path name.bytes)) place name
          location bytes) ∨
      (∃ next, Enters tree followLinks (Openable tree base (Path.join path name.bytes)) on place
          name next) ∧
        ¬ prunes (Path.join path name.bytes) = true ∧
        .file file ∈ tree.walk base followLinks prunes (Path.join path name.bytes :: entered)
          (Path.join path name.bytes) := by
  rw [← onward_eq_file_iff reached stands, ← onward_eq_directory_iff reached trail opens stands]
  simp only [entryMet]
  cases tree.onward base followLinks entered (Path.join path name.bytes) entry with
  | file => simp
  | directory => split <;> simp_all
  | hindered hindrance => simp
  | nothing => simp

theorem endsAt_of_enters {opens : Prop} (reached : EndsAt tree base path (.directory place))
    {next : Location} (enters : Enters tree followLinks opens on place name next) :
    EndsAt tree base (Path.join path name.bytes) (.directory next) := by
  rw [tree.endsAt_join_iff base path place name _ reached]
  cases enters with
  | directory real => exact ⟨0, .directory 0 place name [] _ real (.arrived _)⟩
  | link _ _ _ leads => exact leads.2

theorem stands_of_showsFile {opens : Prop} {location : Location} {bytes : ByteArray}
    (shows : ShowsFile tree followLinks opens place name location bytes) :
    ∃ entry, tree.stands? (place ++ [name]) = some entry := by
  cases shows with
  | file _ content => exact ⟨_, content⟩
  | link _ _ _ _ leads =>
    obtain ⟨target, link⟩ := leads.1
    exact ⟨_, link⟩

theorem stands_of_enters {opens : Prop} {next : Location}
    (enters : Enters tree followLinks opens on place name next) :
    ∃ entry, tree.stands? (place ++ [name]) = some entry := by
  cases enters with
  | directory real => exact ⟨_, real⟩
  | link _ _ _ leads =>
    obtain ⟨target, link⟩ := leads.1
    exact ⟨_, link⟩

end Steps

theorem visits_file_ne_nil {followLinks : Bool} {prunes opens : List FileName → Prop}
    {entered : List Location} {place location : Location} {above names : List FileName}
    {bytes : ByteArray}
    (visits : Visits tree followLinks prunes opens entered place above names
      (.file location bytes)) :
    names ≠ [] := by
  cases visits with
  | file => exact List.cons_ne_nil _ _
  | down => exact List.cons_ne_nil _ _

theorem endsAt_of_showsFile {followLinks : Bool} {opens : Prop} {path : RawText}
    {place location : Location} {name : FileName} {bytes : ByteArray}
    (reached : EndsAt tree base path (.directory place))
    (shows : ShowsFile tree followLinks opens place name location bytes) :
    EndsAt tree base (Path.join path name.bytes) (.file location bytes) := by
  rw [tree.endsAt_join_iff base path place name _ reached]
  cases shows with
  | file _ content => exact ⟨0, .file place name bytes content⟩
  | link _ _ _ _ leads => exact leads.2

theorem endsAt_of_visits {followLinks : Bool} {prunes opens : List FileName → Prop} {root : RawText}
    {entered : List Location} {place : Location} {above names : List FileName} {found : Found}
    (reached : EndsAt tree base (pathBelow root above) (.directory place))
    (visits : Visits tree followLinks prunes opens entered place above names found) :
    EndsAt tree base (pathBelow root (above ++ names)) found := by
  have next : ∀ (above : List FileName) (name : FileName),
      pathBelow root (above ++ [name]) = Path.join (pathBelow root above) name.bytes :=
    fun above name => pathBelow_append root above [name]
  induction visits with
  | arrived => rwa [List.append_nil]
  | file _ _ above name _ _ _ shows =>
    rw [next]
    exact tree.endsAt_of_showsFile base reached shows
  | down _ _ _ above name names _ _ enters _ _ ih =>
    rw [List.append_cons]
    refine ih ?_
    rw [next]
    exact endsAt_of_enters reached enters

theorem opens_of_visits_file {followLinks : Bool} {prunes opens : List FileName → Prop}
    {entered : List Location} {place location : Location} {above names : List FileName}
    {bytes : ByteArray}
    (visits : Visits tree followLinks prunes opens entered place above names
      (.file location bytes)) :
    opens above := by
  cases visits with
  | file _ _ _ _ _ _ opened => exact opened
  | down _ _ _ _ _ _ _ opened => exact opened

/-- A walk lists the files that `Visits` describes, where it is asked of paths whether they can be
opened and are passed over. -/
theorem mem_walk_iff (prunes : RawText → Bool) (root : RawText) (entered : List RawText)
    (on : List Location) (place : Location) (above : List FileName) (file : RawText)
    (reached : EndsAt tree base (pathBelow root above) (.directory place))
    (trail : Trail tree base (pathBelow root above) entered on) :
    .file file ∈ tree.walk base followLinks prunes entered (pathBelow root above) ↔
      ∃ names location bytes, file = pathBelow root (above ++ names) ∧
        Visits tree followLinks (fun names => prunes (pathBelow root names) = true)
          (fun names => Openable tree base (pathBelow root names)) on place above names
          (.file location bytes) := by
  generalize whole : pathBelow root above = path at reached trail ⊢
  induction path using tree.walk_induction base generalizing entered on place above with
  | step path ih =>
    by_cases opens : Openable tree base path
    · have opened := tree.resolve_of_endsAt opens reached
      have next : ∀ name : FileName,
          pathBelow root (above ++ [name]) = Path.join path name.bytes := by
        intro name
        rw [pathBelow_append, whole]
        rfl
      rw [walk_of_directory _ _ _ _ _ _ place opened, List.mem_flatMap]
      constructor
      · rintro ⟨⟨name, entry⟩, present, member⟩
        have stands := (tree.mem_children_iff_stands place name entry).mp present
        obtain ⟨same, location, bytes, shows⟩ | ⟨⟨further, enters⟩, kept, member⟩ :=
          (mem_entryMet_iff prunes file reached trail opens stands).mp member
        · rw [← next name] at same shows
          exact ⟨[name], location, bytes, same,
            .file on place above name location bytes (whole ▸ opens) shows⟩
        · obtain ⟨names, location, bytes, same, visits⟩ :=
            (ih place name opened _ _ further _ (next name) (endsAt_of_enters reached enters)
              (trail.next opens (endsAt_of_enters reached enters))).mp member
          rw [← next name] at enters kept
          refine ⟨name :: names, location, bytes, by rw [same, List.append_assoc]; rfl, ?_⟩
          exact .down on place further above name names _ (whole ▸ opens) enters kept visits
      · rintro ⟨names, location, bytes, same, visits⟩
        cases visits with
        | file _ _ _ name _ _ _ shows =>
          obtain ⟨entry, stands⟩ := stands_of_showsFile shows
          rw [next name] at shows same
          refine ⟨(name, entry), (tree.mem_children_iff_stands place name entry).mpr stands, ?_⟩
          exact (mem_entryMet_iff prunes file reached trail opens stands).mpr
            (.inl ⟨same, location, bytes, shows⟩)
        | down _ _ further _ name names _ _ enters kept visits =>
          obtain ⟨entry, stands⟩ := stands_of_enters enters
          rw [next name] at enters kept
          have member := (ih place name opened _ _ further _ (next name)
            (endsAt_of_enters reached enters)
            (trail.next opens (endsAt_of_enters reached enters))).mpr
              ⟨names, location, bytes, by rw [same, List.append_assoc]; rfl, visits⟩
          refine ⟨(name, entry), (tree.mem_children_iff_stands place name entry).mpr stands, ?_⟩
          exact (mem_entryMet_iff prunes file reached trail opens stands).mpr
            (.inr ⟨⟨further, enters⟩, kept, member⟩)
    · have unopened : ∀ place, tree.resolve base path ≠ .ok (.directory place) :=
        fun place opened => opens ⟨_, opened⟩
      refine iff_of_false (tree.notMem_walk_of_unopened _ _ _ _ _ _ unopened) ?_
      rintro ⟨names, location, bytes, _, visits⟩
      exact opens (whole ▸ tree.opens_of_visits_file visits)

end PatternLint.FileTree
