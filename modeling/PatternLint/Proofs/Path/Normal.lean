import PatternLint.PathFilter
import PatternLint.Proofs.Path.Components

namespace PatternLint

namespace Path

structure IsInner (component : Component) : Prop where
  read : component? component.bytes = some component
  bare : slash ∉ component.bytes

theorem isInner_of_component? {piece : RawText} {component : Component}
    (made : component? piece = some component) (bare : slash ∉ piece) : IsInner component := by
  have same := bytes_of_component? made
  exact ⟨by rw [same, made], by rwa [same]⟩

theorem components_cases (path : RawText) (given : path ≠ []) :
    ∃ head inner, components path = firstComponent head :: inner ∧ slash ∉ head ∧
      ∀ component ∈ inner, IsInner component := by
  obtain ⟨head, rest, parts⟩ := List.exists_cons_of_ne_nil (Text.pieces_ne_nil slash path)
  have bare := Text.notMem_of_mem_pieces slash path
  rw [parts] at bare
  refine ⟨head, rest.filterMap component?, components_eq path head rest given parts,
    bare head List.mem_cons_self, ?_⟩
  intro component member
  obtain ⟨piece, inside, made⟩ := List.mem_filterMap.mp member
  exact isInner_of_component? made (bare piece (List.mem_cons_of_mem _ inside))

section Inner

variable (inner : List Component) (own : ∀ component ∈ inner, IsInner component)

include own

theorem filterMap_bytes : (inner.map Component.bytes).filterMap component? = inner := by
  have read : ∀ component ∈ inner, (component? ∘ Component.bytes) component = some component :=
    fun component member => (own component member).read
  rw [List.filterMap_map, List.filterMap_congr read, List.filterMap_some]

theorem bare_bytes : ∀ bytes ∈ inner.map Component.bytes, slash ∉ bytes :=
  List.forall_mem_map.mpr fun component member => (own component member).bare

/-- A root is followed by one more slash than it is itself. -/
theorem pieces_root :
    Text.pieces slash ([slash].intercalate ([slash] :: inner.map Component.bytes)) =
      [] :: [] :: inner.map Component.bytes := by
  by_cases single : inner = []
  · subst single
    rfl
  · have given : inner.map Component.bytes ≠ [] := by simpa using single
    have slashes : [slash].intercalate ([slash] :: inner.map Component.bytes) =
        [] ++ slash :: ([] ++ slash :: [slash].intercalate (inner.map Component.bytes)) := by
      rw [List.intercalate_cons_of_ne_nil given]
      rfl
    rw [slashes, Text.pieces_append_mark, Text.pieces_append_mark,
      Text.pieces_intercalate slash _ given (bare_bytes inner own)]
    rfl

theorem components_intercalate (head : RawText) (bare : slash ∉ head) :
    components ([slash].intercalate ((firstComponent head :: inner).map Component.bytes)) =
      firstComponent head :: inner := by
  have texts := filterMap_bytes inner own
  rw [List.map_cons]
  by_cases root : head = []
  · subst root
    have parts := pieces_root inner own
    have filled : [slash].intercalate ([slash] :: inner.map Component.bytes) ≠ [] := by
      intro empty
      rw [empty] at parts
      cases parts
    exact (components_eq _ _ _ filled parts).trans (congrArg (_ :: ·) texts)
  · rw [bytes_firstComponent head root]
    have free : ∀ bytes ∈ head :: inner.map Component.bytes, slash ∉ bytes :=
      List.forall_mem_cons.mpr ⟨bare, bare_bytes inner own⟩
    have parts := Text.pieces_intercalate slash _ (List.cons_ne_nil _ _) free
    have filled : [slash].intercalate (head :: inner.map Component.bytes) ≠ [] := by
      intro empty
      rw [empty] at parts
      exact root (List.cons.inj parts).1.symm
    rw [components_eq _ _ _ filled parts, texts]

end Inner

/-- A component as it is read from what is shown of it. -/
def Component.shown : Component → Component
  | .name bytes => .name (Text.encode (Text.lossy bytes))
  | component => component

theorem encode_text (component : Component) :
    Text.encode component.text = component.shown.bytes := by
  cases component with
  | root => exact congrArg Text.encode (Text.lossy_encode ['/'])
  | here => exact congrArg Text.encode (Text.lossy_encode ['.'])
  | up => exact congrArg Text.encode (Text.lossy_encode ['.', '.'])
  | name bytes => rfl

theorem IsInner.shown {component : Component} (own : IsInner component) :
    IsInner component.shown := by
  cases component with
  | name bytes =>
    have named := (isName_of_component? own.read own.bare).shown
    exact ⟨named.component?, named.bare⟩
  | root => exact own
  | here => exact own
  | up => exact own

theorem firstComponent_shown (head : RawText) (bare : slash ∉ head) :
    ∃ other, slash ∉ other ∧ (firstComponent head).shown = firstComponent other := by
  cases first : firstComponent head with
  | name bytes =>
    have named := (isName_of_firstComponent first bare).shown
    exact ⟨_, named.bare, named.firstComponent.symm⟩
  | root => exact ⟨head, bare, first.symm⟩
  | here => exact ⟨head, bare, first.symm⟩
  | up => exact ⟨head, bare, first.symm⟩

theorem components_normalize (path : RawText) :
    components (Text.encode (normalize path)) = (components path).map Component.shown := by
  by_cases given : path = []
  · subst given
    rfl
  · obtain ⟨head, inner, parts, bare, own⟩ := components_cases path given
    obtain ⟨other, free, first⟩ := firstComponent_shown head bare
    have shown : ∀ component ∈ inner.map Component.shown, IsInner component :=
      List.forall_mem_map.mpr fun component member => (own component member).shown
    have texts : Text.encode ∘ Component.text = Component.bytes ∘ Component.shown :=
      funext encode_text
    rw [normalize, parts, encode_intercalate, List.map_map, texts, ← List.map_map, List.map_cons,
      first]
    exact components_intercalate _ shown other free

@[simp]
theorem text_shown (component : Component) : component.shown.text = component.text := by
  cases component with
  | name bytes => exact Text.lossy_encode _
  | root => rfl
  | here => rfl
  | up => rfl

theorem normalize_congr {path other : RawText}
    (same : (components path).map Component.text = (components other).map Component.text) :
    normalize path = normalize other := by
  rw [normalize, same, normalize]

theorem texts_normalize (path : RawText) :
    (components (Text.encode (normalize path))).map Component.text =
      (components path).map Component.text := by
  have texts : Component.text ∘ Component.shown = Component.text := funext text_shown
  rw [components_normalize, List.map_map, texts]

theorem normalize_eq_iff (path other : RawText) :
    normalize path = normalize other ↔
      (components path).map Component.text = (components other).map Component.text := by
  constructor
  · intro same
    rw [← texts_normalize path, same, texts_normalize]
  · exact normalize_congr

theorem pieces_encode (chars : List Char) :
    Text.pieces slash (Text.encode chars) = (Text.pieces '/' chars).map Text.encode := by
  have bare := Text.notMem_of_mem_pieces '/' chars
  have whole : ['/'].intercalate (Text.pieces '/' chars) = chars := by
    rw [Text.pieces_eq_splitOn, List.intercalate_splitOn]
  conv_lhs => rw [← whole, encode_intercalate]
  apply Text.pieces_intercalate
  · simpa using Text.pieces_ne_nil '/' chars
  · simp only [List.forall_mem_map]
    intro piece member inside
    exact bare piece member ((Text.mem_encode_iff_of_ascii slash '/' rfl (by decide) _).mp inside)

theorem shown_of_component?_encode {chars : List Char} {component : Component}
    (made : component? (Text.encode chars) = some component) : component.shown = component := by
  cases component with
  | name bytes =>
    obtain ⟨rfl, _⟩ := (component?_eq_name_iff _ bytes).mp made
    rw [Component.shown, Text.lossy_encode]
  | root => rfl
  | here => rfl
  | up => rfl

theorem shown_firstComponent_encode (chars : List Char) :
    (firstComponent (Text.encode chars)).shown = firstComponent (Text.encode chars) := by
  by_cases root : Text.encode chars = []
  · rw [root]
    rfl
  by_cases here : Text.encode chars = [dot]
  · rw [here]
    rfl
  · exact shown_of_component?_encode (component?_eq_firstComponent _ root here)

theorem shown_of_mem_components (text : String) (component : Component)
    (member : component ∈ components (Text.raw text)) : component.shown = component := by
  have given : Text.raw text ≠ [] := by
    intro empty
    rw [empty] at member
    cases member
  obtain ⟨head, rest, parts⟩ := List.exists_cons_of_ne_nil (Text.pieces_ne_nil '/' text.toList)
  have pieces : Text.pieces slash (Text.raw text) = Text.encode head :: rest.map Text.encode := by
    rw [Text.raw, pieces_encode, parts, List.map_cons]
  rw [components_eq _ _ _ given pieces] at member
  rcases List.mem_cons.mp member with rfl | later
  · exact shown_firstComponent_encode head
  · obtain ⟨_, inside, made⟩ := List.mem_filterMap.mp later
    obtain ⟨chars, _, rfl⟩ := List.mem_map.mp inside
    exact shown_of_component?_encode made

theorem components_normalize_raw (text : String) :
    components (Text.encode (normalize (Text.raw text))) = components (Text.raw text) := by
  rw [components_normalize]
  conv_rhs => rw [← List.map_id (components (Text.raw text))]
  exact List.map_congr_left (shown_of_mem_components text)

/-- Paths that are texts have one normal form just if they have the same components. -/
theorem normalize_raw_eq_iff (path other : String) :
    normalize (Text.raw path) = normalize (Text.raw other) ↔
      components (Text.raw path) = components (Text.raw other) := by
  constructor
  · intro same
    rw [← components_normalize_raw path, same, components_normalize_raw]
  · intro same
    exact normalize_congr (congrArg (List.map Component.text) same)

end Path

namespace PathFilter

theorem isIncluded_congr (filter : PathFilter) {path other : RawText}
    (same : Path.normalize path = Path.normalize other) :
    filter.isIncluded path = filter.isIncluded other := by
  rw [isIncluded, same, isIncluded]

theorem prunesDir_congr (filter : PathFilter) {path other : RawText}
    (same : Path.normalize path = Path.normalize other) :
    filter.prunesDir path = filter.prunesDir other := by
  rw [prunesDir, same, prunesDir]

end PathFilter

namespace Path

theorem normalize_normalize (path : RawText) :
    normalize (Text.encode (normalize path)) = normalize path :=
  normalize_congr (texts_normalize path)

/-- The normal form stands for the components as they are shown and nothing else; where paths are
texts, for the components. Filters go by it, and below a directory it begins with the normal form of
the directory and a slash. -/
theorem normalize_canonical :
    (∀ path, normalize (Text.encode (normalize path)) = normalize path) ∧
      (∀ path other, normalize path = normalize other ↔
        (components path).map Component.text = (components other).map Component.text) ∧
      (∀ path other : String, normalize (Text.raw path) = normalize (Text.raw other) ↔
        components (Text.raw path) = components (Text.raw other)) ∧
      (∀ (filter : PathFilter) path other,
        (components path).map Component.text = (components other).map Component.text →
          filter.isIncluded path = filter.isIncluded other ∧
            filter.prunesDir path = filter.prunesDir other) ∧
      (∀ (filter : PathFilter) path,
        filter.isIncluded (Text.encode (normalize path)) = filter.isIncluded path ∧
          filter.prunesDir (Text.encode (normalize path)) = filter.prunesDir path) ∧
      ∀ base path, base ≠ [] → path ≠ [] → isAbsolute path = false →
        (components path).head? ≠ some .here →
          normalize (join base path) = normalize base ++ '/' :: normalize path := by
  refine ⟨normalize_normalize, normalize_eq_iff, normalize_raw_eq_iff, ?_, ?_, ?_⟩
  · intro filter path other shown
    have same := normalize_congr shown
    exact ⟨filter.isIncluded_congr same, filter.prunesDir_congr same⟩
  · intro filter path
    have same := normalize_normalize path
    exact ⟨filter.isIncluded_congr same, filter.prunesDir_congr same⟩
  · exact normalize_join

/-- A root, slashes that are repeated and dots in all places, and a byte that is part of no
character. -/
theorem normalize_of_dotted :
    (components (Text.raw "//x/./")).map Component.text =
        (components (Text.raw "/x")).map Component.text ∧
      PathFilter.isIncluded ⟨[], []⟩ (Text.raw "//x/./") =
        PathFilter.isIncluded ⟨[], []⟩ (Text.raw "/x") ∧
      (components (Text.raw "..//.b/./")).head? ≠ some .here ∧
      normalize (join [0x2f, 0xff] (Text.raw "..//.b/./")) =
        normalize [0x2f, 0xff] ++ '/' :: normalize (Text.raw "..//.b/./") := by
  obtain ⟨_, _, _, filters, _, joined⟩ := normalize_canonical
  have same : (components (Text.raw "//x/./")).map Component.text =
      (components (Text.raw "/x")).map Component.text :=
    congrArg (List.map Component.text) (by decide +kernel)
  have ordinary : (components (Text.raw "..//.b/./")).head? ≠ some .here := by decide +kernel
  exact ⟨same, (filters _ _ _ same).1, ordinary,
    joined _ _ (by decide) (by decide) (by decide) ordinary⟩

/-- Different names may be shown alike. -/
theorem normalize_conflates :
    ¬ ∀ path other, normalize path = normalize other ↔ components path = components other := by
  intro faithful
  have shown : normalize [0x61, 0xff] = normalize [0x61, 0xfe] := by decide +kernel
  have same := (faithful _ _).mp shown
  exact absurd same (by decide +kernel)

end Path

end PatternLint
