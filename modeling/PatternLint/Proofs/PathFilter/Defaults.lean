import PatternLint.Proofs.Glob.Segments
import PatternLint.Proofs.PathFilter.Inclusion

/-!
What is excluded by default, told from the names along a path. A glob excludes a path if its
segments can be laid along the first names of the path, however many these are, and the globs that
exclude by default have one of three shapes.
-/

namespace PatternLint

namespace Glob

/-- The segments can be laid along the first of some components, one at least. -/
def LaidAbove (segments : List Segment) (components : List (List Char)) : Prop :=
  ∃ above, above ≠ [] ∧ above <+: components ∧ Laid segments above

theorem exists_above_iff (path : List Char) (holds : List (List Char) → Prop) :
    (∃ part, PathFilter.Above path part ∧ holds (Text.pieces '/' part)) ↔
      ∃ above, above ≠ [] ∧ above <+: Text.pieces '/' path ∧ holds above := by
  constructor
  · rintro ⟨part, above, held⟩
    refine ⟨Text.pieces '/' part, Text.pieces_ne_nil '/' part, ?_, held⟩
    rcases above with rfl | ⟨rest, rfl⟩
    · exact List.prefix_refl _
    · rw [Text.pieces_append_mark]
      exact List.prefix_append _ _
  · rintro ⟨above, given, ⟨rest, parts⟩, held⟩
    by_cases final : rest = []
    · subst final
      rw [List.append_nil] at parts
      exact ⟨path, .inl rfl, parts ▸ held⟩
    · obtain ⟨part, after, rfl, rfl, _⟩ :=
        (Text.pieces_eq_append_iff '/' path above rest given final).mp parts.symm
      exact ⟨part, .inr ⟨after, rfl⟩, held⟩

theorem admits_above_iff (text : String) (accepted : ∃ glob, compile text = .ok glob)
    (path : List Char) :
    (∃ part, PathFilter.Above path part ∧ Admits text part) ↔
      LaidAbove (segments text) (Text.pieces '/' path) := by
  obtain ⟨glob, compiled⟩ := accepted
  have admits : ∀ part, Admits text part ↔ Laid (segments text) (Text.pieces '/' part) := by
    intro part
    simp [Admits, compiled, matchesChars_iff_laid text glob compiled]
  simp only [admits, exists_above_iff path, LaidAbove]

section Shapes

variable (part : List Char) (components : List (List Char))

theorem laidAbove_top_iff :
    LaidAbove [.part part, .tree] components ↔
      2 ≤ components.length ∧ ∃ first ∈ components.head?, Covers part first := by
  constructor
  · rintro ⟨above, _, ⟨after, rfl⟩, laid⟩
    obtain ⟨first, rest, rfl, covers, laid⟩ := (laid_part_iff _ above part).mp laid
    have filled := List.length_pos_iff.mpr ((laid_last_iff rest).mp laid)
    refine ⟨?_, first, rfl, covers⟩
    simp only [List.length_append, List.length_cons]
    omega
  · rintro ⟨long, first, begins, covers⟩
    obtain ⟨rest, rfl⟩ := List.head?_eq_some_iff.mp begins
    have filled : rest ≠ [] := by
      rintro rfl
      simp at long
    exact ⟨first :: rest, by simp, List.prefix_refl _,
      .part part first _ _ covers (.rest rest filled)⟩

theorem mem_dropLast_iff (component : List Char) :
    component ∈ components.dropLast ↔
      ∃ before after, components = before ++ component :: after ∧ after ≠ [] := by
  constructor
  · intro member
    rcases List.eq_nil_or_concat components with rfl | ⟨init, last, rfl⟩
    · cases member
    · rw [List.concat_eq_append, List.dropLast_concat] at member
      obtain ⟨before, after, rfl⟩ := List.append_of_mem member
      exact ⟨before, after ++ [last], by simp, by simp⟩
  · rintro ⟨before, after, rfl, more⟩
    rw [List.dropLast_append_of_ne_nil (by simp), List.dropLast_cons_of_ne_nil more]
    simp

theorem laidAbove_inner_iff :
    LaidAbove [.tree, .part part, .tree] components ↔
      ∃ component ∈ components.dropLast, Covers part component := by
  simp only [mem_dropLast_iff]
  constructor
  · rintro ⟨above, _, ⟨after, rfl⟩, laid⟩
    obtain ⟨skipped, kept, rfl, later⟩ := (laid_tree_iff _ above (by simp)).mp laid
    obtain ⟨component, rest, rfl, covers, last⟩ := (laid_part_iff _ kept part).mp later
    have filled := (laid_last_iff rest).mp last
    exact ⟨component, ⟨skipped, rest ++ after, by simp, by simp [filled]⟩, covers⟩
  · rintro ⟨component, ⟨before, after, rfl, more⟩, covers⟩
    exact ⟨before ++ component :: after, by simp, List.prefix_refl _,
      .tree before _ _ (by simp) (.part part component _ _ covers (.rest after more))⟩

theorem laidAbove_any_iff :
    LaidAbove [.tree, .part part] components ↔ ∃ component ∈ components, Covers part component := by
  constructor
  · rintro ⟨above, _, ⟨after, rfl⟩, laid⟩
    obtain ⟨skipped, kept, rfl, later⟩ := (laid_tree_iff _ above (by simp)).mp laid
    obtain ⟨component, rest, rfl, covers, _⟩ := (laid_part_iff _ kept part).mp later
    exact ⟨component, by simp, covers⟩
  · rintro ⟨component, member, covers⟩
    obtain ⟨before, after, rfl⟩ := List.append_of_mem member
    exact ⟨before ++ [component], by simp, ⟨after, by simp⟩,
      .tree before _ _ (by simp) (.part part component _ _ covers .nothing)⟩

def Plain (part : List Char) : Prop := ∀ char ∈ part, char ≠ '?' ∧ char ≠ '*' ∧ char ≠ '['

instance : Decidable (Plain part) := List.decidableBAll _ part

variable {part}

theorem covers_plain_iff (plain : Plain part) (text : List Char) :
    Covers part text ↔ text = part := by
  induction part generalizing text with
  | nil => exact covers_nil_iff text
  | cons char part ih =>
    obtain ⟨⟨noOne, noRun, noBracket⟩, others⟩ := List.forall_mem_cons.mp plain
    rw [covers_literal_iff part text char noOne noRun noBracket]
    simp only [ih others, exists_eq_right]

theorem covers_ending_iff (plain : Plain part) (text : List Char) :
    Covers ('*' :: part) text ↔ part <:+ text := by
  simp only [covers_run_iff, covers_plain_iff plain]
  constructor
  · rintro ⟨taken, _, rfl, rfl⟩
    exact List.suffix_append taken _
  · rintro ⟨taken, rfl⟩
    exact ⟨taken, part, rfl, rfl⟩

end Shapes

end Glob

namespace PathFilter

/-- The names along a path lead through a directory that is excluded by default, or one of them is
excluded for itself. -/
def LeftOut (names : List (List Char)) : Prop :=
  (2 ≤ names.length ∧ ∃ dir ∈ [".git", ".idea", ".eclipse"], names.head? = some dir.toList) ∨
    (∃ dir ∈ [".gradle", "build"], dir.toList ∈ names.dropLast) ∨
      (∃ name ∈ names, ∃ ending ∈ [".class", ".hprof", ".jar", ".jpg", ".png", ".jks"],
        ending.toList <:+ name) ∨
        ".kotlin".toList ∈ names

theorem segments_defaultExcludes :
    (defaultExcludes.map Glob.segments).Perm
      (([".git", ".idea", ".eclipse"].map fun dir => [.part dir.toList, .tree]) ++
        ([".gradle", "build"].map fun dir => [.tree, .part dir.toList, .tree]) ++
        ([".class", ".hprof", ".jar", ".jpg", ".png", ".jks"].map fun ending =>
          [.tree, .part ('*' :: ending.toList)]) ++
        [[.tree, .part ".kotlin".toList]]) := by decide +kernel

section Names

variable (names : List (List Char))

theorem laidAbove_plain_top (dir : String) (plain : Glob.Plain dir.toList) :
    Glob.LaidAbove [.part dir.toList, .tree] names ↔
      2 ≤ names.length ∧ names.head? = some dir.toList := by
  simp only [Glob.laidAbove_top_iff, Glob.covers_plain_iff plain, Option.mem_def, exists_eq_right]

theorem laidAbove_plain_inner (dir : String) (plain : Glob.Plain dir.toList) :
    Glob.LaidAbove [.tree, .part dir.toList, .tree] names ↔ dir.toList ∈ names.dropLast := by
  simp only [Glob.laidAbove_inner_iff, Glob.covers_plain_iff plain, exists_eq_right]

theorem laidAbove_plain_any (name : String) (plain : Glob.Plain name.toList) :
    Glob.LaidAbove [.tree, .part name.toList] names ↔ name.toList ∈ names := by
  simp only [Glob.laidAbove_any_iff, Glob.covers_plain_iff plain, exists_eq_right]

theorem laidAbove_ending (ending : String) (plain : Glob.Plain ending.toList) :
    Glob.LaidAbove [.tree, .part ('*' :: ending.toList)] names ↔
      ∃ name ∈ names, ending.toList <:+ name := by
  simp only [Glob.laidAbove_any_iff, Glob.covers_ending_iff plain]

theorem exists_defaultExclude_iff :
    (∃ text ∈ defaultExcludes, Glob.LaidAbove (Glob.segments text) names) ↔ LeftOut names := by
  have listed : (∃ text ∈ defaultExcludes, Glob.LaidAbove (Glob.segments text) names) ↔
      ∃ segments ∈ defaultExcludes.map Glob.segments, Glob.LaidAbove segments names := by simp
  have tops : ∀ dir ∈ [".git", ".idea", ".eclipse"], Glob.Plain dir.toList := by decide
  have inner : ∀ dir ∈ [".gradle", "build"], Glob.Plain dir.toList := by decide
  have endings : ∀ ending ∈ [".class", ".hprof", ".jar", ".jpg", ".png", ".jks"],
      Glob.Plain ending.toList := by decide
  rw [listed]
  simp only [segments_defaultExcludes.mem_iff, List.mem_append, or_and_right, exists_or, LeftOut,
    List.mem_map, exists_exists_and_eq_and, List.mem_singleton, exists_eq_left, or_assoc]
  refine or_congr ?_ (or_congr ?_ (or_congr ?_ ?_))
  · rw [← exists_and_left]
    refine exists_congr fun dir => ?_
    rw [and_left_comm]
    exact and_congr_right fun member => laidAbove_plain_top names dir (tops dir member)
  · refine exists_congr fun dir => and_congr_right fun member => ?_
    exact laidAbove_plain_inner names dir (inner dir member)
  · simp only [← exists_and_left]
    rw [exists_comm]
    refine exists_congr fun ending => ?_
    simp only [and_left_comm, exists_and_left]
    exact and_congr_right fun member => laidAbove_ending names ending (endings ending member)
  · exact laidAbove_plain_any names ".kotlin" (by decide)

end Names

section Standard

variable {standard : PathFilter} (shipped : compileWithDefaults [] [] = .ok standard)

include shipped

theorem isIncluded_standard_iff (path : RawText) :
    standard.isIncluded path = true ↔
      ¬ ∃ text ∈ defaultExcludes, ∃ part,
        Above (Path.normalize path) part ∧ Glob.Admits text part := by
  rw [compileWithDefaults, List.append_nil] at shipped
  rw [isIncluded_iff_admits shipped]
  exact and_iff_right (.inl rfl)

/-- The globs that exclude by default are laid along the names of a path. -/
theorem isIncluded_standard_iff_leftOut (path : RawText) (names : List RawText)
    (parts : Path.components path = names.map .name) :
    standard.isIncluded path = true ↔ ¬ LeftOut (names.map Text.lossy) := by
  have laid : ∀ text ∈ defaultExcludes,
      (∃ part, Above (Path.normalize path) part ∧ Glob.Admits text part) ↔
        Glob.LaidAbove (Glob.segments text) (Text.pieces '/' (Path.normalize path)) :=
    fun text member => Glob.admits_above_iff text (passes_defaultExcludes text member) _
  have bare : ∀ text ∈ names.map Text.lossy, '/' ∉ text := by
    simp only [List.forall_mem_map]
    intro name member
    exact (Path.isName_of_mem_components path name (parts ▸ List.mem_map_of_mem member)).lossy_bare
  rw [isIncluded_standard_iff shipped, exists_congr fun text => and_congr_right (laid text),
    exists_defaultExclude_iff, Path.normalize_of_components path names parts]
  by_cases given : names = []
  · have single : Text.pieces '/' (['/'].intercalate []) = [[]] := rfl
    rw [given, List.map_nil, single]
    simp [LeftOut]
  · rw [Text.pieces_intercalate '/' _ (by simpa using given) bare]

theorem isIncluded_withDefaults_iff {includes excludes : List String} {filter both : PathFilter}
    (accepted : compile includes excludes = .ok filter)
    (extended : compileWithDefaults includes excludes = .ok both) (path : RawText) :
    both.isIncluded path = true ↔
      filter.isIncluded path = true ∧ standard.isIncluded path = true := by
  have either : ∀ excluded : String → Prop,
      (¬ ∃ text ∈ defaultExcludes ++ excludes, excluded text) ↔
        (¬ ∃ text ∈ excludes, excluded text) ∧ ¬ ∃ text ∈ defaultExcludes, excluded text := by
    intro excluded
    simp only [List.mem_append, or_and_right, exists_or, not_or]
    exact and_comm
  rw [compileWithDefaults] at extended
  rw [isIncluded_iff_admits extended, isIncluded_iff_admits accepted,
    isIncluded_standard_iff shipped, either, and_assoc]

end Standard

/-- What is excluded by default are version control and editors' folders at the top of a path, build
folders at any depth, files of some kinds, and one kind of folder by its name alone. With globs of
one's own besides, a path is included if it is by these alone and by default. -/
theorem defaults_exclude_exactly :
    ∃ standard, compileWithDefaults [] [] = .ok standard ∧
      (∀ (path : RawText) (names : List RawText),
        Path.components path = names.map .name →
          (standard.isIncluded path = true ↔ ¬ LeftOut (names.map Text.lossy))) ∧
        ∀ (includes excludes : List String) (filter : PathFilter),
          compile includes excludes = .ok filter →
            ∃ both, compileWithDefaults includes excludes = .ok both ∧
              ∀ path : RawText, both.isIncluded path = true ↔
                filter.isIncluded path = true ∧ standard.isIncluded path = true := by
  obtain ⟨standard, shipped⟩ := compilesWithDefaults_iff.mpr
    ⟨List.forall_mem_nil _, List.forall_mem_nil _⟩
  refine ⟨standard, shipped, isIncluded_standard_iff_leftOut shipped, ?_⟩
  intro includes excludes filter accepted
  have passes := (compiles_iff includes excludes).mp ⟨filter, accepted⟩
  obtain ⟨both, extended⟩ := compilesWithDefaults_iff.mpr passes
  exact ⟨both, extended, isIncluded_withDefaults_iff shipped accepted extended⟩

theorem defaults_exclude_jar :
    ∃ standard filter both, compileWithDefaults [] [] = .ok standard ∧
      compile ["src/**"] ["old"] = .ok filter ∧
      compileWithDefaults ["src/**"] ["old"] = .ok both ∧
      Path.components (Text.raw "src/./a.jar") =
        [Text.raw "src", Text.raw "a.jar"].map .name ∧
      (standard.isIncluded (Text.raw "src/./a.jar") = true ↔
        ¬ LeftOut ([Text.raw "src", Text.raw "a.jar"].map Text.lossy)) ∧
      ∀ path : RawText, both.isIncluded path = true ↔
        filter.isIncluded path = true ∧ standard.isIncluded path = true := by
  obtain ⟨standard, shipped, leaves, more⟩ := defaults_exclude_exactly
  have parts : Path.components (Text.raw "src/./a.jar") =
      [Text.raw "src", Text.raw "a.jar"].map .name := by decide +kernel
  obtain ⟨both, extended, joined⟩ := more ["src/**"] ["old"] _ rfl
  exact ⟨standard, _, both, shipped, rfl, extended, parts, leaves _ _ parts, joined⟩

end PathFilter

end PatternLint
