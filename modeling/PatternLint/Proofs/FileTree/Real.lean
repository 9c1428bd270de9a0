import Mathlib.Data.List.Induction
import PatternLint.Proofs.FileTree.Walk

namespace PatternLint.FileTree

/-- The names lead from a directory down to a file, through real directories only. -/
structure RealFile (tree : FileTree) (place : Location) (names : List FileName)
    (bytes : ByteArray) : Prop where
  below : names ≠ []
  stands : tree.stands? (place ++ names) = some (.file bytes)
  above : ∀ before, before <+: names → before ≠ names →
    tree.stands? (place ++ before) = some .directory

variable (tree : FileTree)

theorem stands_of_mem_directories (location : Location) (present : location ∈ tree.directories) :
    tree.stands? location = some .directory := by
  by_cases root : location = []
  · exact if_pos root
  · rcases (mem_directoriesOf_iff _ _).mp present with root' | ⟨item, member, real, same⟩
    · exact absurd root' root
    · rw [stands_eq_some_iff tree location .directory root]
      rcases item with ⟨place, entry⟩
      cases entry with
      | directory => exact same ▸ member
      | file bytes => cases real
      | link target => cases real

theorem mem_directories_of_append (location rest : Location)
    (inside : location ++ rest ∈ tree.directories) : location ∈ tree.directories := by
  induction rest using List.reverseRecOn with
  | nil => rwa [List.append_nil] at inside
  | append_singleton between name ih =>
    apply ih
    have above := tree.dropLast_mem_directories _ inside
    rwa [← List.append_assoc, List.dropLast_concat] at above

theorem mem_directories_of_below (location rest : Location) (entry : Entry) (more : rest ≠ [])
    (stands : tree.stands? (location ++ rest) = some entry) : location ∈ tree.directories := by
  have given : location ++ rest ≠ [] := by simp [more]
  have inside := tree.closed _ ((tree.stands_eq_some_iff _ entry given).mp stands)
  rw [List.dropLast_append_of_ne_nil more] at inside
  exact tree.mem_directories_of_append location rest.dropLast inside

theorem realFile_of_stands (place : Location) (names : List FileName) (bytes : ByteArray)
    (below : names ≠ []) (stands : tree.stands? (place ++ names) = some (.file bytes)) :
    RealFile tree place names bytes where
  below := below
  stands := stands
  above := by
    intro before begins shorter
    rcases begins with ⟨rest, whole⟩
    subst whole
    apply tree.stands_of_mem_directories
    apply tree.mem_directories_of_below (place ++ before) rest (.file bytes)
    · intro empty
      rw [empty, List.append_nil] at shorter
      exact shorter rfl
    · rw [List.append_assoc]
      exact stands

section Visits

variable {tree} {prunes opens : List FileName → Prop} {entered : List Location}
  {place location : Location} {above names : List FileName} {bytes : ByteArray}

theorem stands_of_visits {found : Found}
    (visits : Visits tree false prunes opens entered place above names found)
    (ends : found = .file location bytes) :
    tree.stands? (place ++ names) = some (.file bytes) ∧ location = place ++ names := by
  induction visits with
  | arrived => cases ends
  | file entered place above name _ _ _ shows =>
    cases ends
    cases shows with
    | file _ stands => exact ⟨stands, rfl⟩
    | link _ _ follows => cases follows
  | down entered place next above name names _ _ enters _ _ ih =>
    cases enters with
    | directory real =>
      have below := ih ends
      rwa [List.append_assoc] at below
    | link _ follows => cases follows

theorem opens_of_visits {found : Found}
    (visits : Visits tree false prunes opens entered place above names found)
    (before : List FileName) (begins : before <+: names) (shorter : before ≠ names) :
    opens (above ++ before) := by
  induction visits generalizing before with
  | arrived => exact absurd (List.prefix_nil.mp begins) shorter
  | file entered place above name _ _ opened =>
    cases before with
    | nil => rwa [List.append_nil]
    | cons first rest =>
      have parts := List.cons_prefix_cons.mp begins
      exact absurd (by rw [parts.1, List.prefix_nil.mp parts.2]) shorter
  | down entered place next above name names _ opened _ _ _ ih =>
    cases before with
    | nil => rwa [List.append_nil]
    | cons first rest =>
      obtain ⟨rfl, later⟩ := List.cons_prefix_cons.mp begins
      have inside := ih rest later fun same => shorter (by rw [same])
      rwa [List.append_assoc] at inside

theorem visits_of_stands (free : ∀ names, ¬ prunes names) (below : names ≠ [])
    (stands : tree.stands? (place ++ names) = some (.file bytes))
    (opened : ∀ before, before <+: names → before ≠ names → opens (above ++ before)) :
    Visits tree false prunes opens entered place above names (.file (place ++ names) bytes) := by
  induction names generalizing entered place above with
  | nil => exact absurd rfl below
  | cons name rest ih =>
    have here : opens above := by
      have first := opened [] List.nil_prefix (List.cons_ne_nil _ _).symm
      rwa [List.append_nil] at first
    by_cases last : rest = []
    · subst last
      exact .file entered place above name _ bytes here (.file bytes stands)
    · rw [List.append_cons] at stands ⊢
      have inside := tree.mem_directories_of_below (place ++ [name]) rest _ last stands
      have real := tree.stands_of_mem_directories _ inside
      refine .down entered place (place ++ [name]) above name rest _ here (.directory real)
        (free _) ?_
      refine ih last stands fun before begins shorter => ?_
      rw [List.append_assoc]
      exact opened (name :: before) (List.cons_prefix_cons.mpr ⟨rfl, begins⟩)
        fun same => shorter (List.cons.inj same).2

/-- Without links followed, a walk finds the files below it if all directories above them can be
opened. -/
theorem visits_iff_realFile (free : ∀ names, ¬ prunes names) :
    Visits tree false prunes opens entered place [] names (.file location bytes) ↔
      RealFile tree place names bytes ∧ location = place ++ names ∧
        ∀ before, before <+: names → before ≠ names → opens before := by
  constructor
  · intro visits
    obtain ⟨stands, same⟩ := stands_of_visits visits rfl
    exact ⟨tree.realFile_of_stands place names bytes (tree.visits_file_ne_nil visits) stands, same,
      opens_of_visits visits⟩
  · rintro ⟨real, rfl, opened⟩
    exact visits_of_stands free real.below real.stands opened

end Visits

end PatternLint.FileTree
