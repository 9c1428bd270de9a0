import PatternLint.Proofs.FileTree.Joined

namespace PatternLint.FileTree

theorem length_add_le_pathBelow (path : RawText) (names : List FileName) :
    path.length + names.length ≤ (pathBelow path names).length := by
  induction names generalizing path with
  | nil => exact Nat.le_refl _
  | cons name rest ih =>
    have longer := join_name_length path name
    have below := ih (Path.join path name.bytes)
    have same : pathBelow path (name :: rest) = pathBelow (Path.join path name.bytes) rest := rfl
    rw [same, List.length_cons]
    omega

variable (tree : FileTree) (base : Location)

theorem resolve_of_long (path : RawText) (plain : 0 ∉ path) (long : pathLimit ≤ path.length) :
    tree.resolve base path = .error .nameTooLong := by
  have given : path ≠ [] := by
    rintro rfl
    exact absurd long (by decide)
  rw [resolve, if_neg (by simpa using plain), if_neg (by simpa using given), if_pos long]

theorem nul_notMem_pathBelow (path : RawText) (names : List FileName) (plain : 0 ∉ path) :
    0 ∉ pathBelow path names := by
  induction names generalizing path with
  | nil => exact plain
  | cons name rest ih => exact ih _ (nul_notMem_join path name plain)

/-- Nothing below a path of full length can be asked for. -/
theorem resolve_below_full (path : RawText) (names : List FileName) (more : names ≠ [])
    (plain : 0 ∉ path) (full : pathLimit ≤ path.length + 1) :
    tree.resolve base (pathBelow path names) = .error .nameTooLong := by
  apply resolve_of_long tree base _ (nul_notMem_pathBelow path names plain)
  have longer := length_add_le_pathBelow path names
  have one := List.length_pos_iff.mpr more
  omega

theorem not_openable_below (path : RawText) (names : List FileName) (more : names ≠ [])
    (full : pathLimit ≤ path.length + 1) : ¬ Openable tree base (pathBelow path names) := by
  rintro ⟨found, opened⟩
  have short := tree.length_lt_of_resolve base _ found opened
  have longer := length_add_le_pathBelow path names
  have one := List.length_pos_iff.mpr more
  omega

def dotted (path : RawText) : Nat → RawText
  | 0 => path
  | count + 1 => dotted path count ++ [Path.slash, Path.dot]

theorem length_dotted (path : RawText) (count : Nat) :
    (dotted path count).length = path.length + 2 * count := by
  induction count with
  | zero => rfl
  | succ count ih =>
    simp only [dotted, List.length_append, ih, List.length_cons, List.length_nil]
    omega

theorem dotted_ne_nil (path : RawText) (count : Nat) (given : path ≠ []) :
    dotted path count ≠ [] := by
  have positive := List.length_pos_iff.mpr given
  apply List.length_pos_iff.mp
  rw [length_dotted]
  omega

theorem nul_notMem_dotted (path : RawText) (count : Nat) (plain : 0 ∉ path) :
    0 ∉ dotted path count := by
  induction count with
  | zero => exact plain
  | succ count ih => simp [dotted, ih, Path.slash, Path.dot]

theorem steps_dotted (path : RawText) (count : Nat) :
    steps (dotted path (count + 1)) = steps (dotted path count) ++ [.here] := by
  rw [dotted, steps, Text.pieces_append_mark, List.map_append]
  rfl

theorem beginning_dotted (path : RawText) (count : Nat) (given : path ≠ []) :
    beginning base (dotted path count) = beginning base path := by
  induction count with
  | zero => rfl
  | succ count ih =>
    have first : (dotted path (count + 1)).head? = (dotted path count).head? :=
      List.head?_append_of_ne_nil _ (dotted_ne_nil path count given)
    rw [← ih, beginning, beginning, Path.isAbsolute, Path.isAbsolute, first]

variable {tree base} {path : RawText} {place : Location}

/-- As long as it may be asked for, a path leads to the same directory with dots after it. -/
theorem resolve_dotted (resolves : tree.resolve base path = .ok (.directory place)) (count : Nat)
    (short : path.length + 2 * count < pathLimit) :
    tree.resolve base (dotted path count) = .ok (.directory place) := by
  obtain ⟨plain, given, _, crossed, few, leads⟩ := (tree.resolve_eq_ok_iff base path _).mp resolves
  refine tree.resolve_of_leads base _ _ crossed (nul_notMem_dotted path count plain)
    (dotted_ne_nil path count given) (length_dotted path count ▸ short) few ?_
  rw [beginning_dotted base path count given]
  clear short
  induction count with
  | zero => exact leads
  | succ count ih =>
    rw [steps_dotted]
    exact tree.leads_append crossed 0 _ place _ [.here] _ ih (.here 0 place [] _ (.arrived place))

end PatternLint.FileTree
