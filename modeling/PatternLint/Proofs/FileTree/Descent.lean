import Mathlib.Order.WellFounded
import PatternLint.Proofs.FileTree.Walk

/-!
How deep a walk can go. Apart from what the length of a path allows, it goes down only to
directories that lie deeper, or over links to directories that are not on the way yet, so it never
goes down for ever.
-/

namespace PatternLint.FileTree

variable (tree : FileTree)

def depth : Nat := (tree.entries.map fun item => item.1.length).foldl max 0

/-- How many directories have not been entered; each link that is followed makes it smaller. -/
def unentered (entered : List Location) : Nat :=
  (tree.directories.filter fun directory => directory ∉ entered).length

def walkMeasure (entered : List Location) (place : Location) : Nat :=
  tree.unentered entered * (tree.depth + 1) + (tree.depth - place.length)

theorem le_foldl_max (numbers : List Nat) (start : Nat) : start ≤ numbers.foldl max start := by
  induction numbers generalizing start with
  | nil => exact Nat.le_refl start
  | cons head tail ih => exact Nat.le_trans (Nat.le_max_left start head) (ih (max start head))

theorem mem_le_foldl_max (numbers : List Nat) (start number : Nat) (present : number ∈ numbers) :
    number ≤ numbers.foldl max start := by
  induction numbers generalizing start with
  | nil => simp at present
  | cons head tail ih =>
    rcases List.mem_cons.mp present with same | later
    · subst same
      exact Nat.le_trans (Nat.le_max_right start number) (le_foldl_max tail _)
    · exact ih (max start head) later

theorem length_le_depth (item : Location × Entry) (present : item ∈ tree.entries) :
    item.1.length ≤ tree.depth :=
  mem_le_foldl_max _ 0 _ (List.mem_map.mpr ⟨item, present, rfl⟩)

theorem unentered_cons_eq (entered : List Location) (place : Location) :
    tree.unentered (place :: entered) =
      ((tree.directories.filter fun directory => directory ∉ entered).filter
        fun directory => directory ≠ place).length := by
  rw [unentered, List.filter_filter]
  congr 2
  funext directory
  by_cases same : directory = place <;> simp [same]

theorem unentered_cons_le (entered : List Location) (place : Location) :
    tree.unentered (place :: entered) ≤ tree.unentered entered := by
  rw [unentered_cons_eq]
  exact List.filter_sublist.length_le

theorem unentered_cons_lt (entered : List Location) (place : Location)
    (present : place ∈ tree.directories) (fresh : place ∉ entered) :
    tree.unentered (place :: entered) < tree.unentered entered := by
  rw [unentered_cons_eq]
  apply List.length_filter_lt_length_iff_exists.mpr
  exact ⟨place, List.mem_filter.mpr ⟨present, by simp [fresh]⟩, by simp⟩

theorem unentered_start_lt (place : Location) (inside : place ∈ tree.directories) :
    tree.unentered [place] < tree.directories.length := by
  apply List.length_filter_lt_length_iff_exists.mpr
  exact ⟨place, inside, by simp⟩

theorem leads_mem_directories (crossed : Nat) (place : Location) (list : List Step) (found : Found)
    (leads : Leads tree crossed place list found) (inside : place ∈ tree.directories)
    (location : Location) (ends : found = .directory location) : location ∈ tree.directories := by
  induction leads with
  | arrived place =>
    cases ends
    exact inside
  | here _ _ _ _ _ ih => exact ih inside ends
  | up _ place _ _ _ ih => exact ih (tree.dropLast_mem_directories place inside) ends
  | directory _ _ _ _ _ stands _ ih => exact ih (tree.mem_directories_of_stands _ stands) ends
  | file => cases ends
  | link _ place _ target _ _ _ _ ih =>
    refine ih ?_ ends
    unfold beginning
    split
    · exact List.mem_cons_self
    · exact inside

theorem mem_directories_of_child (place : Location) (name : FileName) (entry : Entry)
    (stands : tree.stands? (place ++ [name]) = some entry) : place ∈ tree.directories :=
  tree.mem_directories_of_inside place name entry
    (tree.mem_entries_of_stands _ entry (by simp) stands)

section Enters

variable (followLinks : Bool) (opens : Prop)

theorem walkMeasure_enters (entered : List Location) (place : Location) (name : FileName)
    (next : Location) (enters : Enters tree followLinks opens entered place name next) :
    tree.walkMeasure (next :: entered) next < tree.walkMeasure entered place := by
  unfold walkMeasure
  cases enters with
  | directory real =>
    have within := tree.length_le_depth _ (tree.mem_entries_of_stands _ _ (by simp) real)
    have fewer := Nat.mul_le_mul_right (tree.depth + 1)
      (tree.unentered_cons_le entered (place ++ [name]))
    simp only [List.length_append, List.length_singleton] at within ⊢
    omega
  | link _ _ _ leads fresh =>
    obtain ⟨⟨target, link⟩, crossed, leads⟩ := leads
    have inside := tree.mem_directories_of_child place name _ link
    have present := tree.leads_mem_directories crossed place _ _ leads inside next rfl
    have fewer := Nat.mul_le_mul_right (tree.depth + 1)
      (tree.unentered_cons_lt entered next present fresh)
    rw [Nat.succ_mul] at fewer
    omega

end Enters

variable (followLinks : Bool)

/-- A walk in `state` may go on in `next`: a state holds the directories entered and the last one.
-/
def GoesOn (next state : List Location × Location) : Prop :=
  next.1 = next.2 :: state.1 ∧ ∃ name, Enters tree followLinks True state.1 state.2 name next.2

theorem goesOn_wellFounded : WellFounded (tree.GoesOn followLinks) := by
  apply Subrelation.wf (r := InvImage (· < ·) fun state => tree.walkMeasure state.1 state.2)
  · intro later state step
    rcases later with ⟨deeper, next⟩
    rcases state with ⟨entered, place⟩
    rcases step with ⟨trail, name, enters⟩
    simp only at trail
    subst trail
    exact tree.walkMeasure_enters followLinks True entered place name next enters
  · exact InvImage.wf _ Nat.lt_wfRel.wf

variable (prunes opens : List FileName → Prop)

theorem visits_length_le (entered : List Location) (place : Location)
    (above names : List FileName) (found : Found)
    (visits : Visits tree followLinks prunes opens entered place above names found) :
    names.length ≤ tree.walkMeasure entered place + 1 := by
  induction visits with
  | arrived => exact Nat.zero_le _
  | file => exact Nat.le_add_left _ _
  | down entered place next above name names found _ enters _ _ ih =>
    have less := tree.walkMeasure_enters followLinks _ entered place name next enters
    rw [List.length_cons]
    omega

/-- However links are laid, no way down is longer than a way through every directory to the bottom
of the tree. -/
theorem visits_start_length_le (place : Location) (above names : List FileName) (found : Found)
    (visits : Visits tree followLinks prunes opens [place] place above names found) :
    names.length ≤ tree.directories.length * (tree.depth + 1) := by
  by_cases nothing : names = []
  · simp [nothing]
  have inside : place ∈ tree.directories := by
    have stands : ∃ name entry, tree.stands? (place ++ [name]) = some entry := by
      cases visits with
      | arrived => exact absurd rfl nothing
      | file _ _ _ name _ _ _ shows => exact ⟨name, stands_of_showsFile shows⟩
      | down _ _ _ _ name _ _ _ enters => exact ⟨name, stands_of_enters enters⟩
    obtain ⟨name, entry, stands⟩ := stands
    exact tree.mem_directories_of_child place name entry stands
  have short := tree.visits_length_le followLinks prunes opens _ _ _ _ _ visits
  have fewer := Nat.mul_le_mul_right (tree.depth + 1)
    (Nat.succ_le_of_lt (tree.unentered_start_lt place inside))
  rw [Nat.succ_mul] at fewer
  unfold walkMeasure at short
  omega

end PatternLint.FileTree
