import Mathlib.Data.List.Basic
import PatternLint.FileTree.Walk
import PatternLint.Proofs.Path.Components

namespace PatternLint.FileTree

def namesPath (names : List FileName) : RawText :=
  [Path.slash].intercalate (names.map FileName.bytes)

/-- Names as they are shown, with slashes between them. -/
def namesText (names : List FileName) : List Char :=
  ['/'].intercalate (names.map fun name => Text.lossy name.bytes)

theorem isName_fileName (name : FileName) : Path.IsName name.bytes := by
  have valid := name.valid
  simp only [isFileName, Bool.and_eq_true, bne_iff_ne, Bool.not_eq_true', List.contains_eq_mem,
    decide_eq_false_iff_not] at valid
  exact ⟨valid.1.1.1.1.1, valid.1.1.2, valid.1.1.1.1.2, valid.1.1.1.2⟩

theorem nul_notMem_fileName (name : FileName) : 0 ∉ name.bytes := by
  have valid := name.valid
  simp only [isFileName, Bool.and_eq_true, Bool.not_eq_true', List.contains_eq_mem,
    decide_eq_false_iff_not] at valid
  exact valid.1.2

theorem nul_notMem_join (path : RawText) (name : FileName) (plain : 0 ∉ path) :
    0 ∉ Path.join path name.bytes := by
  have bare := nul_notMem_fileName name
  have slash : (0 : UInt8) ≠ Path.slash := by decide
  unfold Path.join
  split
  · exact bare
  · split <;> simp [plain, bare, slash]

theorem isName_of_names (names : List FileName) :
    ∀ bytes ∈ names.map FileName.bytes, Path.IsName bytes :=
  List.forall_mem_map.mpr fun name _ => isName_fileName name

theorem fileName_bytes_injective : Function.Injective FileName.bytes := by
  intro first second same
  rcases first with ⟨one, _⟩
  rcases second with ⟨other, _⟩
  cases same
  rfl

theorem namesPath_append (above names : List FileName) (given : above ≠ []) (more : names ≠ []) :
    namesPath (above ++ names) = namesPath above ++ Path.slash :: namesPath names := by
  unfold namesPath
  rw [List.map_append, Path.intercalate_append _ _ _ (by simpa using given) (by simpa using more)]
  simp

theorem namesText_append (above names : List FileName) (given : above ≠ []) (more : names ≠ []) :
    namesText (above ++ names) = namesText above ++ '/' :: namesText names := by
  unfold namesText
  rw [List.map_append, Path.intercalate_append _ _ _ (by simpa using given) (by simpa using more)]
  simp

theorem pieces_namesPath (names : List FileName) (given : names ≠ []) :
    Text.pieces Path.slash (namesPath names) = names.map FileName.bytes :=
  Path.pieces_names _ (isName_of_names names) (by simpa using given)

theorem pieces_namesText (names : List FileName) (given : names ≠ []) :
    Text.pieces '/' (namesText names) = names.map fun name => Text.lossy name.bytes := by
  apply Text.pieces_intercalate '/' _ (by simpa using given)
  exact List.forall_mem_map.mpr fun name _ => (isName_fileName name).lossy_bare

theorem namesPath_ne_nil (names : List FileName) (given : names ≠ []) : namesPath names ≠ [] :=
  Path.intercalate_names_ne_nil _ (isName_of_names names) (by simpa using given)

theorem namesText_ne_nil (names : List FileName) (given : names ≠ []) : namesText names ≠ [] := by
  intro empty
  obtain ⟨name, rest, rfl⟩ := List.exists_cons_of_ne_nil given
  have parts := pieces_namesText (name :: rest) (List.cons_ne_nil _ _)
  rw [empty, List.map_cons] at parts
  have bare : Text.lossy name.bytes = [] := (List.cons.inj parts).1.symm
  exact (isName_fileName name).filled ((Text.lossy_eq_nil_iff _).mp bare)

theorem components_namesPath (names : List FileName) (given : names ≠ []) :
    Path.components (namesPath names) = names.map fun name => .name name.bytes := by
  rw [namesPath, Path.components_names _ (isName_of_names names) (by simpa using given),
    List.map_map]
  rfl

@[simp]
theorem normalize_namesPath (names : List FileName) :
    Path.normalize (namesPath names) = namesText names := by
  rw [namesPath, Path.normalize_names _ (isName_of_names names), List.map_map]
  rfl

/-- What is shown for names is compared with globs as it is. -/
@[simp]
theorem normalize_namesText (names : List FileName) :
    Path.normalize (Text.encode (namesText names)) = namesText names := by
  have shown := Path.normalize_shown _ (isName_of_names names)
  rwa [List.map_map] at shown

theorem mem_of_mem_namesText (names : List FileName) (char : Char)
    (member : char ∈ namesText names) :
    char = '/' ∨ ∃ name ∈ names, char ∈ Text.lossy name.bytes := by
  induction names with
  | nil => cases member
  | cons name rest ih =>
    have first : namesText [name] = Text.lossy name.bytes := List.intercalate_singleton
    by_cases more : rest = []
    · subst more
      rw [first] at member
      exact .inr ⟨name, List.mem_cons_self, member⟩
    · rw [← List.singleton_append, namesText_append _ _ (by simp) more, first] at member
      rcases List.mem_append.mp member with inside | after
      · exact .inr ⟨name, List.mem_cons_self, inside⟩
      · rcases List.mem_cons.mp after with slash | later
        · exact .inl slash
        · exact (ih later).imp_right fun ⟨other, below, inside⟩ =>
            ⟨other, List.mem_cons_of_mem name below, inside⟩

theorem namesPath_injective : Function.Injective namesPath := by
  intro names others same
  by_cases given : names = []
  · subst given
    by_contra differ
    exact namesPath_ne_nil others (fun empty => differ empty.symm) same.symm
  · have more : others ≠ [] := by
      intro empty
      rw [empty] at same
      exact namesPath_ne_nil names given same
    have parts := pieces_namesPath names given
    rw [same, pieces_namesPath others more] at parts
    exact (List.map_injective_iff.mpr fileName_bytes_injective parts).symm

theorem isAbsolute_fileName (name : FileName) : Path.isAbsolute name.bytes = false :=
  (isName_fileName name).isAbsolute

theorem isAbsolute_namesPath (names : List FileName) : Path.isAbsolute (namesPath names) = false :=
  Path.isAbsolute_names _ (isName_of_names names)

theorem isAbsolute_namesText (names : List FileName) :
    Path.isAbsolute (Text.encode (namesText names)) = false := by
  rw [namesText, Path.encode_intercalate, List.map_map]
  exact Path.isAbsolute_names _ (List.forall_mem_map.mpr fun name _ => (isName_fileName name).shown)

theorem namesPath_getLast? (names : List FileName) (given : names ≠ []) :
    (namesPath names).getLast? ≠ some Path.slash := by
  intro closed
  have parts := pieces_namesPath names given
  obtain ⟨body, whole⟩ := List.getLast?_eq_some_iff.mp closed
  rw [whole, Text.pieces_append_mark] at parts
  have last : [] ∈ names.map FileName.bytes := by
    rw [← parts]
    exact List.mem_append_right _ (List.mem_singleton.mpr rfl)
  obtain ⟨name, _, bare⟩ := List.mem_map.mp last
  exact (isName_fileName name).filled bare

def pathBelow (path : RawText) (names : List FileName) : RawText :=
  names.foldl (fun path name => Path.join path name.bytes) path

theorem pathBelow_append (path : RawText) (names more : List FileName) :
    pathBelow path (names ++ more) = pathBelow (pathBelow path names) more :=
  List.foldl_append

/-- The path of what lies below a root is the root joined to the names that lead there. -/
theorem pathBelow_eq_join (root : RawText) (names : List FileName) (given : root ≠ [])
    (more : names ≠ []) : pathBelow root names = Path.join root (namesPath names) := by
  -- From the end, since a walk joins name after name to what is above.
  induction names using List.reverseRecOn with
  | nil => exact absurd rfl more
  | append_singleton above name ih =>
    rw [pathBelow_append]
    by_cases first : above = []
    · subst first
      simp [pathBelow, namesPath]
    · have one : namesPath [name] = name.bytes := List.intercalate_singleton
      rw [ih first, namesPath_append above [name] first (List.cons_ne_nil _ _), one]
      exact Path.join_join root _ _ given (namesPath_ne_nil above first)
        (isAbsolute_namesPath above) (isAbsolute_fileName name) (namesPath_getLast? above first)

theorem pathBelow_injective {root : RawText} (given : root ≠ []) {names others : List FileName}
    (filled : names ≠ []) (more : others ≠ [])
    (same : pathBelow root names = pathBelow root others) :
    names = others := by
  apply namesPath_injective
  rw [pathBelow_eq_join root names given filled, pathBelow_eq_join root others given more,
    Path.join_of_relative root _ given (isAbsolute_namesPath names),
    Path.join_of_relative root _ given (isAbsolute_namesPath others)] at same
  split at same
  · exact List.append_cancel_left same
  · exact (List.cons.inj (List.append_cancel_left same)).2

/-- What lies below a root begins with it, however the root is written, and is told of by the names
alone. -/
theorem relative_pathBelow (root : RawText) (names : List FileName) (given : root ≠ [])
    (more : names ≠ []) :
    Path.components root <+: Path.components (pathBelow root names) ∧
      Path.relative root (pathBelow root names) = namesText names := by
  have ordinary : (Path.components (namesPath names)).head? ≠ some .here := by
    rw [components_namesPath names more]
    cases names with
    | nil => exact absurd rfl more
    | cons name rest => simp
  have tail := isAbsolute_namesPath names
  have filled := namesPath_ne_nil names more
  rw [pathBelow_eq_join root names given more]
  constructor
  · rw [Path.components_join root _ given filled tail ordinary]
    exact List.prefix_append _ _
  · rw [Path.relative_join root _ given filled tail ordinary, normalize_namesPath]

def IsText (name : FileName) : Prop := ∃ text : String, name.bytes = Text.raw text

theorem encode_lossy_of_isText (name : FileName) (text : IsText name) :
    Text.encode (Text.lossy name.bytes) = name.bytes := by
  obtain ⟨text, same⟩ := text
  rw [same, Text.raw, Text.lossy_encode]

theorem namesPath_of_texts (names : List FileName) (texts : ∀ name ∈ names, IsText name) :
    namesPath names = Text.encode (namesText names) := by
  have kept : ∀ name ∈ names, Text.encode (Text.lossy name.bytes) = name.bytes :=
    fun name member => encode_lossy_of_isText name (texts name member)
  rw [namesText, Path.encode_intercalate, List.map_map, namesPath]
  exact congrArg _ (List.map_congr_left fun name member => (kept name member).symm)

theorem eq_of_namesText (names others : List FileName) (texts : ∀ name ∈ names, IsText name)
    (more : ∀ name ∈ others, IsText name) (same : namesText names = namesText others) :
    names = others := by
  apply namesPath_injective
  rw [namesPath_of_texts names texts, namesPath_of_texts others more, same]

end PatternLint.FileTree
