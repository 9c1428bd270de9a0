import PatternLint.PathFilter
import PatternLint.Proofs.Path.Components

namespace PatternLint.PathFilter

theorem mem_ancestorsFrom_iff (before text dir : List Char) :
    dir ∈ ancestorsFrom before text ↔
      ∃ left right, text = left ++ '/' :: right ∧ dir = before.reverse ++ left := by
  induction text generalizing before with
  | nil => simp [ancestorsFrom]
  | cons char rest ih =>
    have later : dir ∈ ancestorsFrom (char :: before) rest ↔
        ∃ left right, char :: rest = char :: left ++ '/' :: right ∧
          dir = before.reverse ++ char :: left := by
      simp [ih]
    rw [ancestorsFrom]
    constructor
    · intro member
      split at member
      · rename_i slash
        rcases List.mem_cons.mp member with first | member
        · exact ⟨[], rest, by rw [slash]; rfl, by rw [first, List.append_nil]⟩
        · obtain ⟨left, right, parts, same⟩ := later.mp member
          exact ⟨char :: left, right, parts, same⟩
      · obtain ⟨left, right, parts, same⟩ := later.mp member
        exact ⟨char :: left, right, parts, same⟩
    · intro holds
      rcases holds with ⟨left, right, parts, same⟩
      cases left with
      | nil =>
        have slash : char = '/' := (List.cons.inj parts).1
        rw [if_pos slash]
        exact List.mem_cons.mpr (Or.inl (by simpa using same))
      | cons head left =>
        have first : char = head := (List.cons.inj parts).1
        subst first
        have member := later.mpr ⟨left, right, parts, same⟩
        split
        · exact List.mem_cons_of_mem _ member
        · exact member

theorem mem_ancestors_iff (path dir : List Char) :
    dir ∈ ancestors path ↔ ∃ rest, path = dir ++ '/' :: rest := by
  rw [ancestors, mem_ancestorsFrom_iff]
  constructor
  · intro holds
    rcases holds with ⟨left, right, parts, same⟩
    exact ⟨right, by simpa [same] using parts⟩
  · intro holds
    rcases holds with ⟨rest, parts⟩
    exact ⟨dir, rest, parts, by simp⟩

@[simp]
theorem prunesDir_empty (path : RawText) : PathFilter.empty.prunesDir path = false := by
  simp [prunesDir, excludesDir, empty]

@[simp]
theorem isIncluded_empty (path : RawText) : PathFilter.empty.isIncluded path = true := by
  simp [isIncluded, excludesFile, excludesDir, includesFile, empty]

variable (filter : PathFilter)

theorem isIncluded_below_pruned (dir path : RawText) (rest : List Char)
    (pruned : filter.prunesDir dir = true)
    (below : Path.normalize path = Path.normalize dir ++ '/' :: rest) :
    filter.isIncluded path = false := by
  have excluded : filter.excludesDir (Path.normalize dir) = true := by
    simp only [prunesDir, Bool.and_eq_true] at pruned
    exact pruned.2
  have above : Path.normalize dir ∈ ancestors (Path.normalize path) :=
    (mem_ancestors_iff _ _).mpr ⟨rest, below⟩
  have found : filter.excludesFile (Path.normalize path) = true := by
    rw [excludesFile, Bool.or_eq_true]
    exact Or.inr (List.any_eq_true.mpr ⟨_, above, excluded⟩)
  simp [isIncluded, found]

theorem ne_nil_of_prunesDir (dir : RawText) (pruned : filter.prunesDir dir = true) :
    dir ≠ [] := by
  intro empty
  subst empty
  cases pruned

theorem isIncluded_join_pruned (dir path : RawText) (pruned : filter.prunesDir dir = true)
    (more : path ≠ []) (relative : Path.isAbsolute path = false)
    (ordinary : (Path.components path).head? ≠ some .here) :
    filter.isIncluded (Path.join dir path) = false := by
  have given := filter.ne_nil_of_prunesDir dir pruned
  exact filter.isIncluded_below_pruned dir _ _ pruned
    (Path.normalize_join dir path given more relative ordinary)

end PatternLint.PathFilter
