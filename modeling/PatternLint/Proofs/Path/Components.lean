import PatternLint.Path
import PatternLint.Proofs.Text.Line
import PatternLint.Proofs.Text.Raw

namespace PatternLint

namespace Path

theorem intercalate_append {α : Type} (mark : List α) (first second : List (List α))
    (given : first ≠ []) (more : second ≠ []) :
    mark.intercalate (first ++ second) =
      mark.intercalate first ++ mark ++ mark.intercalate second := by
  induction first with
  | nil => exact absurd rfl given
  | cons head tail ih =>
    cases tail with
    | nil => simp [List.intercalate_cons_of_ne_nil more]
    | cons next rest =>
      have later := ih (List.cons_ne_nil next rest)
      rw [List.cons_append] at later
      rw [List.cons_append, List.cons_append, List.intercalate_cons_cons, later,
        List.intercalate_cons_cons]
      simp only [List.append_assoc]

theorem component?_eq_firstComponent (piece : RawText) (given : piece ≠ [])
    (other : piece ≠ [dot]) : component? piece = some (firstComponent piece) := by
  unfold component? firstComponent
  rw [if_neg (by simp [given, other]), if_neg given, if_neg other]
  split <;> rfl

theorem bytes_of_component? {piece : RawText} {component : Component}
    (made : component? piece = some component) : component.bytes = piece := by
  unfold component? at made
  split at made
  · cases made
  split at made
  · rename_i up
    cases made
    exact up.symm
  · cases made
    rfl

theorem bytes_firstComponent (piece : RawText) (given : piece ≠ []) :
    (firstComponent piece).bytes = piece := by
  by_cases here : piece = [dot]
  · rw [here]
    rfl
  · exact bytes_of_component? (component?_eq_firstComponent piece given here)

theorem components_eq (text head : RawText) (rest : List RawText) (given : text ≠ [])
    (parts : Text.pieces slash text = head :: rest) :
    components text = firstComponent head :: rest.filterMap component? := by
  unfold components
  rw [parts]
  exact if_neg given

theorem components_ne_nil (text : RawText) (given : text ≠ []) : components text ≠ [] := by
  cases parts : Text.pieces slash text with
  | nil => simp [Text.pieces_eq_splitOn] at parts
  | cons head rest =>
    rw [components_eq text head rest given parts]
    exact List.cons_ne_nil _ _

theorem head_ne_nil_of_relative (text head : RawText) (rest : List RawText)
    (given : text ≠ []) (relative : isAbsolute text = false)
    (parts : Text.pieces slash text = head :: rest) : head ≠ [] := by
  intro empty
  have whole : [slash].intercalate (text.splitOn slash) = text := List.intercalate_splitOn slash
  rw [← Text.pieces_eq_splitOn, parts, empty] at whole
  cases rest with
  | nil => exact given (by simpa using whole.symm)
  | cons next more => simp [isAbsolute, ← whole] at relative

/-- The components of a relative text that does not begin with a dot of its own are those of its
pieces. -/
theorem components_eq_filterMap (text : RawText) (given : text ≠ [])
    (relative : isAbsolute text = false) (ordinary : (components text).head? ≠ some .here) :
    components text = (Text.pieces slash text).filterMap component? := by
  cases parts : Text.pieces slash text with
  | nil => simp [Text.pieces_eq_splitOn] at parts
  | cons head rest =>
    rw [components_eq text head rest given parts] at ordinary ⊢
    have filled := head_ne_nil_of_relative text head rest given relative parts
    have other : head ≠ [dot] := by
      rintro rfl
      exact ordinary rfl
    rw [List.filterMap_cons, component?_eq_firstComponent head filled other]

theorem mem_pieces_of_mem_components (text : RawText) (component : Component)
    (relative : isAbsolute text = false) (member : component ∈ components text)
    (named : component ≠ .here) : component ∈ (Text.pieces slash text).filterMap component? := by
  have given : text ≠ [] := by
    rintro rfl
    cases member
  cases parts : Text.pieces slash text with
  | nil => simp [Text.pieces_eq_splitOn] at parts
  | cons head rest =>
    rw [components_eq text head rest given parts] at member
    have filled := head_ne_nil_of_relative text head rest given relative parts
    rcases List.mem_cons.mp member with first | later
    · have other : head ≠ [dot] := by
        rintro rfl
        exact named first
      rw [List.filterMap_cons, component?_eq_firstComponent head filled other]
      exact List.mem_cons.mpr (.inl first)
    · rw [List.filterMap_cons]
      split
      · exact later
      · exact List.mem_cons_of_mem _ later

theorem join_of_relative (base path : RawText) (given : base ≠ [])
    (relative : isAbsolute path = false) :
    join base path =
      if base.getLast? = some slash then base ++ path else base ++ slash :: path := by
  rw [join, if_neg (by simp [relative, given])]

theorem join_join (base path last : RawText) (given : base ≠ []) (more : path ≠ [])
    (relative : isAbsolute path = false) (bare : isAbsolute last = false)
    (closed : path.getLast? ≠ some slash) :
    join (join base path) last = join base (path ++ slash :: last) := by
  have tail : isAbsolute (path ++ slash :: last) = false := by
    cases path with
    | nil => exact absurd rfl more
    | cons char rest => exact relative
  obtain ⟨init, char, parts⟩ := List.eq_nil_or_concat path |>.resolve_left more
  have ends : (join base path).getLast? = path.getLast? := by
    rw [join_of_relative base path given relative, parts]
    split <;> simp [List.getLast?_cons]
  have filled : join base path ≠ [] := by
    intro empty
    rw [empty, parts] at ends
    simp at ends
  rw [join_of_relative _ last filled bare, if_neg (ends ▸ closed),
    join_of_relative base path given relative, join_of_relative base _ given tail]
  split <;> simp

/-- What is joined adds the components of its pieces; a dot at its beginning is none of them. -/
theorem components_join_pieces (base path : RawText) (given : base ≠ [])
    (relative : isAbsolute path = false) :
    components (join base path) =
      components base ++ (Text.pieces slash path).filterMap component? := by
  rw [join_of_relative base path given relative]
  split
  · rename_i closed
    obtain ⟨body, parts⟩ := List.getLast?_eq_some_iff.mp closed
    have whole : base ++ path = body ++ slash :: path := by simp [parts]
    have pieces : Text.pieces slash base = Text.pieces slash body ++ [[]] := by
      rw [parts, Text.pieces_append_mark]
      rfl
    cases cut : Text.pieces slash body with
    | nil => simp [Text.pieces_eq_splitOn] at cut
    | cons head rest =>
      rw [components_eq base head (rest ++ [[]]) given (by rw [pieces, cut]; rfl),
        components_eq (base ++ path) head (rest ++ Text.pieces slash path) (by simp [given])
          (by rw [whole, Text.pieces_append_mark, cut]; rfl)]
      simp [component?]
  · cases cut : Text.pieces slash base with
    | nil => simp [Text.pieces_eq_splitOn] at cut
    | cons head rest =>
      rw [components_eq base head rest given cut,
        components_eq (base ++ slash :: path) head (rest ++ Text.pieces slash path) (by simp)
          (by rw [Text.pieces_append_mark, cut]; rfl)]
      simp

theorem components_join (base path : RawText) (given : base ≠ []) (more : path ≠ [])
    (relative : isAbsolute path = false) (ordinary : (components path).head? ≠ some .here) :
    components (join base path) = components base ++ components path := by
  rw [components_eq_filterMap path more relative ordinary,
    components_join_pieces base path given relative]

/-- A path joined below another has its text before a slash, also where it begins with a dot. -/
theorem normalize_join_below (base path : RawText) (given : base ≠ [])
    (relative : isAbsolute path = false)
    (named : ∃ component ∈ components path, component ≠ .here) :
    ∃ rest, normalize (join base path) = normalize base ++ '/' :: rest := by
  obtain ⟨component, member, other⟩ := named
  have present := mem_pieces_of_mem_components path component relative member other
  unfold normalize
  rw [components_join_pieces base path given relative, List.map_append, intercalate_append]
  · exact ⟨_, by rw [List.append_assoc, List.singleton_append]⟩
  · simpa using components_ne_nil base given
  · intro none
    rw [List.map_eq_nil_iff.mp none] at present
    cases present

theorem normalize_join (base path : RawText) (given : base ≠ []) (more : path ≠ [])
    (relative : isAbsolute path = false) (ordinary : (components path).head? ≠ some .here) :
    normalize (join base path) = normalize base ++ '/' :: normalize path := by
  unfold normalize
  rw [components_join base path given more relative ordinary, List.map_append, intercalate_append]
  · simp
  · simpa using components_ne_nil base given
  · simpa using components_ne_nil path more

/-- A text that is a component of its own wherever it stands in a path. -/
structure IsName (text : RawText) : Prop where
  filled : text ≠ []
  bare : slash ∉ text
  notHere : text ≠ [dot]
  notUp : text ≠ [dot, dot]

theorem component?_eq_name_iff (piece text : RawText) :
    component? piece = some (.name text) ↔
      piece = text ∧ piece ≠ [] ∧ piece ≠ [dot] ∧ piece ≠ [dot, dot] := by
  unfold component?
  split
  · rename_i none
    exact iff_of_false nofun fun holds => none.elim holds.2.1 holds.2.2.1
  split
  · rename_i up
    exact iff_of_false nofun fun holds => holds.2.2.2 up
  · rename_i given notUp
    obtain ⟨filled, notHere⟩ := not_or.mp given
    rw [Option.some.injEq, Component.name.injEq]
    exact ⟨fun same => ⟨same, filled, notHere, notUp⟩, And.left⟩

theorem IsName.component? {text : RawText} (named : IsName text) :
    component? text = some (.name text) :=
  (component?_eq_name_iff text text).mpr ⟨rfl, named.filled, named.notHere, named.notUp⟩

theorem IsName.firstComponent {text : RawText} (named : IsName text) :
    firstComponent text = .name text := by
  have own := component?_eq_firstComponent text named.filled named.notHere
  rw [named.component?] at own
  exact (Option.some.inj own).symm

theorem isName_of_component? {piece text : RawText} (made : component? piece = some (.name text))
    (bare : slash ∉ piece) : IsName text := by
  obtain ⟨rfl, filled, notHere, notUp⟩ := (component?_eq_name_iff piece text).mp made
  exact ⟨filled, bare, notHere, notUp⟩

theorem isName_of_firstComponent {piece text : RawText}
    (made : firstComponent piece = .name text) (bare : slash ∉ piece) : IsName text := by
  have filled : piece ≠ [] := by
    rintro rfl
    cases made
  have notHere : piece ≠ [dot] := by
    rintro rfl
    cases made
  refine isName_of_component? ?_ bare
  rw [component?_eq_firstComponent piece filled notHere, made]

theorem isName_of_mem_components (path text : RawText)
    (member : .name text ∈ components path) : IsName text := by
  have given : path ≠ [] := by
    rintro rfl
    cases member
  have bare := Text.notMem_of_mem_pieces slash path
  obtain ⟨head, rest, parts⟩ := List.exists_cons_of_ne_nil (Text.pieces_ne_nil slash path)
  rw [parts] at bare
  rw [components_eq path head rest given parts] at member
  rcases List.mem_cons.mp member with first | later
  · exact isName_of_firstComponent first.symm (bare head List.mem_cons_self)
  · obtain ⟨piece, inside, made⟩ := List.mem_filterMap.mp later
    exact isName_of_component? made (bare piece (List.mem_cons_of_mem _ inside))

theorem IsName.isAbsolute {text : RawText} (named : IsName text) : isAbsolute text = false := by
  rw [Path.isAbsolute, decide_eq_false_iff_not]
  exact fun first => named.bare (List.mem_of_mem_head? first)

theorem IsName.lossy_bare {text : RawText} (named : IsName text) : '/' ∉ Text.lossy text :=
  fun shown => named.bare (Text.mem_of_mem_lossy_ascii slash '/' rfl (by decide) text shown)

theorem IsName.shown {text : RawText} (named : IsName text) :
    IsName (Text.encode (Text.lossy text)) where
  filled := by
    intro empty
    exact named.filled ((Text.lossy_eq_nil_iff text).mp (Text.encode_injective empty))
  bare := by
    intro inside
    exact named.lossy_bare ((Text.mem_encode_iff_of_ascii slash '/' rfl (by decide) _).mp inside)
  notHere := by
    intro here
    have shown : Text.lossy text = ['.'] := Text.encode_injective here
    exact named.notHere ((Text.lossy_eq_iff_of_clean text _ (by decide)).mp shown)
  notUp := by
    intro up
    have shown : Text.lossy text = ['.', '.'] := Text.encode_injective up
    exact named.notUp ((Text.lossy_eq_iff_of_clean text _ (by decide)).mp shown)

theorem normalize_of_components (path : RawText) (names : List RawText)
    (parts : components path = names.map .name) :
    normalize path = ['/'].intercalate (names.map Text.lossy) := by
  have texts : Component.text ∘ Component.name = Text.lossy := rfl
  rw [normalize, parts, List.map_map, texts]

theorem encode_intercalate (texts : List (List Char)) :
    Text.encode (['/'].intercalate texts) = [slash].intercalate (texts.map Text.encode) := by
  induction texts with
  | nil => rfl
  | cons first rest ih =>
    by_cases last : rest = []
    · subst last
      simp only [List.map_cons, List.map_nil, List.intercalate_singleton]
    · rw [List.map_cons, List.intercalate_cons_of_ne_nil last,
        List.intercalate_cons_of_ne_nil (by simpa using last), Text.encode_append,
        Text.encode_append, ih]
      rfl

section Names

variable (names : List RawText) (named : ∀ name ∈ names, IsName name)

include named

theorem pieces_names (given : names ≠ []) :
    Text.pieces slash ([slash].intercalate names) = names :=
  Text.pieces_intercalate slash names given fun name member => (named name member).bare

theorem intercalate_names_ne_nil (given : names ≠ []) : [slash].intercalate names ≠ [] := by
  intro empty
  have parts := pieces_names names named given
  rw [empty] at parts
  have member : [] ∈ names := by simp [← parts, Text.pieces]
  exact (named [] member).filled rfl

theorem isAbsolute_names : isAbsolute ([slash].intercalate names) = false := by
  cases names with
  | nil => rfl
  | cons name rest =>
    have own := named name List.mem_cons_self
    have bare := own.isAbsolute
    obtain ⟨byte, bytes, whole⟩ := List.exists_cons_of_ne_nil own.filled
    rw [whole] at bare
    by_cases last : rest = []
    · rw [last, List.intercalate_singleton, whole]
      exact bare
    · rw [List.intercalate_cons_of_ne_nil last, whole]
      exact bare

theorem components_names (given : names ≠ []) :
    components ([slash].intercalate names) = names.map .name := by
  have filled := intercalate_names_ne_nil names named given
  have parts := pieces_names names named given
  cases names with
  | nil => exact absurd rfl given
  | cons first rest =>
    have own : ∀ name ∈ rest, component? name = some (.name name) := fun name member =>
      (named name (List.mem_cons_of_mem _ member)).component?
    rw [components_eq _ first rest filled parts, (named first List.mem_cons_self).firstComponent,
      List.filterMap_congr own, ← List.filterMap_eq_map]
    rfl

theorem normalize_names :
    normalize ([slash].intercalate names) = ['/'].intercalate (names.map Text.lossy) := by
  by_cases given : names = []
  · subst given
    rfl
  · exact normalize_of_components _ names (components_names names named given)

theorem normalize_shown :
    normalize (Text.encode (['/'].intercalate (names.map Text.lossy))) =
      ['/'].intercalate (names.map Text.lossy) := by
  have shown : ∀ name ∈ (names.map Text.lossy).map Text.encode, IsName name := by
    simp only [List.forall_mem_map]
    exact fun name member => (named name member).shown
  have texts : Text.lossy ∘ Text.encode = id := funext Text.lossy_encode
  rw [encode_intercalate, normalize_names _ shown, List.map_map, texts, List.map_id]

end Names

theorem relative_join (root path : RawText) (given : root ≠ []) (more : path ≠ [])
    (tail : isAbsolute path = false) (ordinary : (components path).head? ≠ some .here) :
    relative root (join root path) = normalize path := by
  unfold relative
  rw [components_join root path given more tail ordinary, if_pos (List.prefix_append _ _),
    List.drop_left, normalize]

end Path

end PatternLint
