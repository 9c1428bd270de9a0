import PatternLint.Proofs.Glob.Matching
import PatternLint.Proofs.Glob.Reading
import PatternLint.Proofs.Glob.Seeking
import PatternLint.Proofs.Text.Line

/-!
What a glob matches, told from its text and the components of a path: the segments of the glob are
laid along the components. The tokens are those of one segment after the other, with a slash between
two of them, and a slash is taken by nothing but a slash and a tree.
-/

namespace PatternLint.Glob

/-- Where a character of a glob stands: outside brackets, right behind the opening one, behind the
mark that may follow it, or further inside. -/
inductive Spot where
  | outside
  | opened
  | marked
  | inside
deriving DecidableEq

def Spot.next : Spot → Char → Spot
  | .outside, '[' => .opened
  | .outside, _ => .outside
  | .opened, '!' => .marked
  | .opened, _ => .inside
  | .marked, _ => .inside
  | .inside, ']' => .outside
  | .inside, _ => .inside

def pieces : Spot → List Char → List (List Char)
  | _, [] => [[]]
  | spot, char :: rest =>
    if spot = .outside ∧ char = '/' then [] :: pieces .outside rest
    else (pieces (spot.next char) rest).modifyHead (char :: ·)

inductive Segment where
  | tree
  | part (text : List Char)
deriving DecidableEq

/-- A slash behind two stars belongs to them, so it begins no segment at the end of a glob. -/
def Segment.ofPieces : List (List Char) → List Segment
  | [] => []
  | [['*', '*'], []] => [.tree]
  | piece :: rest => (if piece = ['*', '*'] then .tree else .part piece) :: ofPieces rest

def segments (text : String) : List Segment :=
  Segment.ofPieces (pieces .outside text.toList)

inductive Covers : List Char → List Char → Prop where
  | nothing : Covers [] []
  | one (char : Char) (part text : List Char) :
    Covers part text → Covers ('?' :: part) (char :: text)
  | run (taken part text : List Char) : Covers part text → Covers ('*' :: part) (taken ++ text)
  | within (first char : Char) (inner part text : List Char) :
    first ≠ '!' → ']' ∉ inner → Token.inRanges (ranges (first :: inner)) char = true →
      Covers part text → Covers ('[' :: first :: (inner ++ ']' :: part)) (char :: text)
  | without (first char : Char) (inner part text : List Char) :
    ']' ∉ inner → Token.inRanges (ranges (first :: inner)) char = false →
      Covers part text → Covers ('[' :: '!' :: first :: (inner ++ ']' :: part)) (char :: text)
  | literal (char : Char) (part text : List Char) :
    char ≠ '?' → char ≠ '*' → char ≠ '[' → Covers part text → Covers (char :: part) (char :: text)

/-- The segments can be laid along the components: two stars take any number of them, and at least
one at the end. -/
inductive Laid : List Segment → List (List Char) → Prop where
  | nothing : Laid [] []
  | part (part component : List Char) (segments : List Segment) (components : List (List Char)) :
    Covers part component → Laid segments components →
      Laid (.part part :: segments) (component :: components)
  | tree (skipped : List (List Char)) (segments : List Segment) (components : List (List Char)) :
    segments ≠ [] → Laid segments components → Laid (.tree :: segments) (skipped ++ components)
  | rest (components : List (List Char)) : components ≠ [] → Laid [.tree] components

section Covering

variable (part text : List Char)

theorem covers_nil_iff : Covers [] text ↔ text = [] := by
  constructor
  · intro covers
    cases covers
    rfl
  · rintro rfl
    exact .nothing

theorem covers_one_iff :
    Covers ('?' :: part) text ↔ ∃ char later, text = char :: later ∧ Covers part later := by
  constructor
  · intro covers
    cases covers with
    | one char _ later covers => exact ⟨char, later, rfl, covers⟩
    | literal _ _ later other => exact absurd rfl other
  · rintro ⟨char, later, rfl, covers⟩
    exact .one char part later covers

theorem covers_run_iff :
    Covers ('*' :: part) text ↔ ∃ taken later, text = taken ++ later ∧ Covers part later := by
  constructor
  · intro covers
    cases covers with
    | run taken _ later covers => exact ⟨taken, later, rfl, covers⟩
    | literal _ _ later _ other => exact absurd rfl other
  · rintro ⟨taken, later, rfl, covers⟩
    exact .run taken part later covers

theorem covers_literal_iff (char : Char) (noOne : char ≠ '?') (noRun : char ≠ '*')
    (noBracket : char ≠ '[') :
    Covers (char :: part) text ↔ ∃ later, text = char :: later ∧ Covers part later := by
  constructor
  · intro covers
    cases covers with
    | one => exact absurd rfl noOne
    | run => exact absurd rfl noRun
    | within => exact absurd rfl noBracket
    | without => exact absurd rfl noBracket
    | literal _ _ later _ _ _ covers => exact ⟨later, rfl, covers⟩
  · rintro ⟨later, rfl, covers⟩
    exact .literal char part later noOne noRun noBracket covers

theorem bracket_ends (inner other part later : List Char) (free : ']' ∉ inner) (bare : ']' ∉ other)
    (same : inner ++ ']' :: part = other ++ ']' :: later) : inner = other ∧ part = later := by
  have one := (Text.pieces_eq_cons_iff ']' _ inner _).mpr ⟨free, .inr ⟨part, rfl, rfl⟩⟩
  have two := (Text.pieces_eq_cons_iff ']' _ other _).mpr ⟨bare, .inr ⟨later, rfl, rfl⟩⟩
  rw [same, two] at one
  obtain ⟨rfl, _⟩ := List.cons.inj one
  exact ⟨rfl, by simpa using same⟩

theorem covers_within_iff (first : Char) (inner : List Char) (plain : first ≠ '!')
    (free : ']' ∉ inner) :
    Covers ('[' :: first :: (inner ++ ']' :: part)) text ↔
      ∃ char later, text = char :: later ∧
        Token.inRanges (ranges (first :: inner)) char = true ∧ Covers part later := by
  constructor
  · intro covers
    generalize whole : '[' :: first :: (inner ++ ']' :: part) = glob at covers
    cases covers with
    | nothing | one | run => cases whole
    | literal char _ later _ _ other covers => exact absurd (List.cons.inj whole).1.symm other
    | without =>
      simp at whole
      exact absurd whole.1 plain
    | within other char inside rest later _ bare among covers =>
      simp only [List.cons.injEq, true_and] at whole
      obtain ⟨rfl, same⟩ := whole
      obtain ⟨rfl, rfl⟩ := bracket_ends inner inside part rest free bare same
      exact ⟨char, later, rfl, among, covers⟩
  · rintro ⟨char, later, rfl, among, covers⟩
    exact .within first char inner part later plain free among covers

theorem covers_without_iff (first : Char) (inner : List Char) (free : ']' ∉ inner) :
    Covers ('[' :: '!' :: first :: (inner ++ ']' :: part)) text ↔
      ∃ char later, text = char :: later ∧
        Token.inRanges (ranges (first :: inner)) char = false ∧ Covers part later := by
  constructor
  · intro covers
    generalize whole : '[' :: '!' :: first :: (inner ++ ']' :: part) = glob at covers
    cases covers with
    | nothing | one | run => cases whole
    | literal char _ later _ _ other covers => exact absurd (List.cons.inj whole).1.symm other
    | within other _ _ _ _ plain =>
      simp at whole
      exact absurd whole.1.symm plain
    | without other char inside rest later bare among covers =>
      simp only [List.cons.injEq, true_and] at whole
      obtain ⟨rfl, same⟩ := whole
      obtain ⟨rfl, rfl⟩ := bracket_ends inner inside part rest free bare same
      exact ⟨char, later, rfl, among, covers⟩
  · rintro ⟨char, later, rfl, among, covers⟩
    exact .without first char inner part later free among covers

end Covering

/-- What the tokens of a piece match is what the piece covers; no slash is among it. -/
structure Means (piece : List Char) (tokens : List Token) : Prop where
  noTree : .tree ∉ tokens
  accords_iff : ∀ text, Accords tokens text ↔ '/' ∉ text ∧ Covers piece text

namespace Means

variable {piece : List Char} {tokens : List Token}

theorem nil : Means [] [] where
  noTree := List.not_mem_nil
  accords_iff text := by
    rw [accords_nil_iff, covers_nil_iff]
    constructor
    · rintro rfl
      exact ⟨List.not_mem_nil, rfl⟩
    · exact And.right

theorem single (means : Means piece tokens) (token : Token) (whole : List Char)
    (admits : Char → Prop)
    (noRun : token ≠ .run) (noTree : token ≠ .tree)
    (accepts : ∀ char, token.accepts char = true ↔ char ≠ '/' ∧ admits char)
    (covers : ∀ text, Covers whole text ↔
      ∃ char later, text = char :: later ∧ admits char ∧ Covers piece later) :
    Means whole (token :: tokens) where
  noTree := by
    rw [List.mem_cons, not_or]
    exact ⟨noTree.symm, means.noTree⟩
  accords_iff text := by
    rw [accords_single_iff token tokens text noRun noTree, covers]
    constructor
    · rintro ⟨char, later, rfl, accepted, accords⟩
      obtain ⟨other, admitted⟩ := (accepts char).mp accepted
      obtain ⟨bare, covered⟩ := (means.accords_iff later).mp accords
      exact ⟨by simp [other.symm, bare], char, later, rfl, admitted, covered⟩
    · rintro ⟨bare, char, later, rfl, admitted, covered⟩
      rw [List.mem_cons, not_or] at bare
      exact ⟨char, later, rfl, (accepts char).mpr ⟨Ne.symm bare.1, admitted⟩,
        (means.accords_iff later).mpr ⟨bare.2, covered⟩⟩

theorem one (means : Means piece tokens) : Means ('?' :: piece) (.one :: tokens) :=
  means.single .one _ (fun _ => True) nofun nofun (by simp) (by simp [covers_one_iff])

theorem literal (means : Means piece tokens) (char : Char) (noOne : char ≠ '?') (noRun : char ≠ '*')
    (noBracket : char ≠ '[') (noSlash : char ≠ '/') :
    Means (char :: piece) (.literal char :: tokens) := by
  refine means.single (.literal char) _ (· = char) nofun nofun ?_ ?_
  · intro other
    rw [accepts_literal, beq_iff_eq]
    exact ⟨fun same => ⟨same ▸ noSlash, same.symm⟩, fun both => both.2.symm⟩
  · intro text
    simp [covers_literal_iff piece text char noOne noRun noBracket]

theorem bracket (means : Means piece tokens) (negated : Bool) (first : Char) (inner : List Char)
    (plain : negated = false → first ≠ '!') (free : ']' ∉ inner) :
    Means ('[' :: (((if negated then ['!'] else []) ++ first :: inner) ++ ']' :: piece))
      (.bracket negated (ranges (first :: inner)) :: tokens) := by
  refine means.single (.bracket negated _) _
    (fun char => Token.inRanges (ranges (first :: inner)) char = !negated) nofun nofun ?_ ?_
  · intro char
    cases negated <;> simp
  · intro text
    cases negated with
    | true => exact covers_without_iff piece text first inner free
    | false => exact covers_within_iff piece text first inner (plain rfl) free

theorem run (means : Means piece tokens) : Means ('*' :: piece) (.run :: tokens) where
  noTree := by simp [means.noTree]
  accords_iff text := by
    rw [accords_run_iff, covers_run_iff]
    constructor
    · rintro ⟨taken, later, rfl, bare, accords⟩
      obtain ⟨free, covered⟩ := (means.accords_iff later).mp accords
      exact ⟨by simp [bare, free], taken, later, rfl, covered⟩
    · rintro ⟨bare, taken, later, rfl, covered⟩
      rw [List.mem_append, not_or] at bare
      exact ⟨taken, later, rfl, bare.1, (means.accords_iff later).mpr ⟨bare.2, covered⟩⟩

end Means

/-- The tokens of the pieces one after the other, a slash between two of them; a tree takes its
slash with it. -/
inductive Spelled : List (List Char) → List Token → Prop where
  | last (piece : List Char) (tokens : List Token) :
    piece ≠ ['*', '*'] → Means piece tokens → Spelled [piece] tokens
  | next (piece : List Char) (rest : List (List Char)) (tokens others : List Token) :
    piece ≠ ['*', '*'] → Means piece tokens → Spelled rest others →
      Spelled (piece :: rest) (tokens ++ .literal '/' :: others)
  | treeEnd : Spelled [['*', '*']] [.tree]
  | treeSlash : Spelled [['*', '*'], []] [.tree]
  | tree (rest : List (List Char)) (others : List Token) :
    rest ≠ [[]] → others ≠ [] → Spelled rest others → Spelled (['*', '*'] :: rest) (.tree :: others)

section Pieces

theorem pieces_ne_nil (spot : Spot) (glob : List Char) : pieces spot glob ≠ [] := by
  fun_induction pieces spot glob with
  | case1 => simp
  | case2 => simp
  | case3 spot char rest _ ih => simpa using ih

theorem pieces_step (spot : Spot) (char : Char) (rest : List Char)
    (passed : spot ≠ .outside ∨ char ≠ '/') :
    pieces spot (char :: rest) = (pieces (spot.next char) rest).modifyHead (char :: ·) := by
  rw [pieces, if_neg (by tauto)]

theorem pieces_cons (char : Char) (rest : List Char) (noSlash : char ≠ '/')
    (noBracket : char ≠ '[') :
    pieces .outside (char :: rest) = (pieces .outside rest).modifyHead (char :: ·) := by
  have stays : Spot.next .outside char = .outside := by
    unfold Spot.next
    split <;> simp_all
  rw [pieces_step _ _ _ (.inr noSlash), stays]

theorem pieces_inside (inner rest : List Char) (free : ']' ∉ inner) :
    pieces .inside (inner ++ ']' :: rest) =
      (pieces .outside rest).modifyHead (inner ++ ']' :: ·) := by
  induction inner with
  | nil => rfl
  | cons char inner ih =>
    rw [List.mem_cons, not_or] at free
    have stays : Spot.next .inside char = .inside := by
      unfold Spot.next
      split <;> simp_all
    rw [List.cons_append, pieces_step .inside _ _ (.inl nofun), stays, ih free.2,
      List.modifyHead_modifyHead]
    rfl

theorem pieces_bracket (negated : Bool) (first : Char) (inner rest : List Char)
    (plain : negated = false → first ≠ '!') (free : ']' ∉ inner) :
    pieces .outside ('[' :: (((if negated then ['!'] else []) ++ first :: inner) ++ ']' :: rest)) =
      (pieces .outside rest).modifyHead fun piece =>
        '[' :: (((if negated then ['!'] else []) ++ first :: inner) ++ ']' :: piece) := by
  cases negated with
  | true =>
    show pieces .outside ('[' :: '!' :: first :: (inner ++ ']' :: rest)) = _
    rw [pieces_step .outside _ _ (.inr (by decide)), Spot.next,
      pieces_step .opened _ _ (.inl nofun), Spot.next, pieces_step .marked _ _ (.inl nofun),
      Spot.next, pieces_inside inner rest free]
    simp only [List.modifyHead_modifyHead]
    rfl
  | false =>
    have enters : Spot.next .opened first = .inside := by
      unfold Spot.next
      split <;> simp_all
    show pieces .outside ('[' :: first :: (inner ++ ']' :: rest)) = _
    rw [pieces_step .outside _ _ (.inr (by decide)), Spot.next,
      pieces_step .opened _ _ (.inl nofun), enters, pieces_inside inner rest free]
    simp only [List.modifyHead_modifyHead]
    rfl

theorem head?_piece (glob piece : List Char) (rest : List (List Char))
    (parts : pieces .outside glob = piece :: rest) (star : piece.head? = some '*') :
    glob.head? = some '*' := by
  cases glob with
  | nil =>
    obtain ⟨rfl, _⟩ := List.cons.inj parts
    cases star
  | cons char glob =>
    by_cases slash : char = '/'
    · subst slash
      obtain ⟨rfl, _⟩ := List.cons.inj parts
      cases star
    · rw [pieces_step _ _ _ (.inr slash)] at parts
      cases later : pieces (Spot.next .outside char) glob with
      | nil => exact absurd later (pieces_ne_nil _ glob)
      | cons head more =>
        rw [later] at parts
        obtain ⟨rfl, _⟩ := List.cons.inj parts
        exact star

theorem pieces_ne_empty (glob : List Char) (given : glob ≠ []) : pieces .outside glob ≠ [[]] := by
  cases glob with
  | nil => exact absurd rfl given
  | cons char glob =>
    by_cases slash : char = '/'
    · subst slash
      intro parts
      exact pieces_ne_nil _ glob (List.cons.inj parts).2
    · rw [pieces_step _ _ _ (.inr slash)]
      intro parts
      cases later : pieces (Spot.next .outside char) glob <;> simp [later] at parts

end Pieces

theorem Written.head?_ne_tree {before : Option Char} {glob : List Char} {tokens : List Token}
    (written : Written before glob tokens) (inside : before.all (· = '/') = false) :
    tokens.head? ≠ some .tree := by
  cases written with
  | treeEnd _ allowed => exact absurd allowed (by simp [inside])
  | tree _ _ _ allowed => exact absurd allowed (by simp [inside])
  | nothing | one | run | bracket | literal => simp

theorem Spelled.extend {glob wider : List Char} {tokens : List Token} {token : Token}
    (spelled : Spelled (pieces .outside glob) tokens) (plain : tokens.head? ≠ some .tree)
    (widen : List Char → List Char)
    (parts : pieces .outside wider = (pieces .outside glob).modifyHead widen)
    (means : ∀ piece first, Means piece first → Means (widen piece) (token :: first))
    (other : ∀ piece rest, pieces .outside glob = piece :: rest → widen piece ≠ ['*', '*']) :
    Spelled (pieces .outside wider) (token :: tokens) := by
  rw [parts]
  generalize pieces .outside glob = all at spelled other
  cases spelled with
  | last piece _ _ known => exact .last _ _ (other piece [] rfl) (means piece tokens known)
  | next piece rest first others _ known later =>
    exact .next _ rest (token :: first) others (other piece rest rfl) (means piece first known)
      later
  | treeEnd | treeSlash | tree => exact absurd rfl plain

theorem Written.spelled {before : Option Char} {glob : List Char} {tokens : List Token}
    (written : Written before glob tokens) : Spelled (pieces .outside glob) tokens := by
  induction written with
  | nothing => exact .last [] [] (by decide) .nil
  | one before rest tokens written ih =>
    refine ih.extend (written.head?_ne_tree rfl) ('?' :: ·)
      (pieces_cons _ _ (by decide) (by decide))
      (fun _ _ means => means.one) (by simp)
  | run before rest tokens single written ih =>
    refine ih.extend (written.head?_ne_tree rfl) ('*' :: ·)
      (pieces_cons _ _ (by decide) (by decide))
      (fun _ _ means => means.run) ?_
    rintro piece more parts same
    exact single (head?_piece rest piece more parts (by simp_all))
  | treeEnd => exact .treeEnd
  | tree before rest tokens _ written ih =>
    by_cases final : rest = []
    · subst final
      cases written
      exact .treeSlash
    · have more : tokens ≠ [] := by
        rintro rfl
        cases written
        exact final rfl
      exact .tree _ tokens (pieces_ne_empty rest final) more ih
  | bracket before body rest negated own tokens read written ih =>
    obtain ⟨marked, first, inner, same, free, plain, parts⟩ := bracket?_eq_some _ rest _ read
    cases same
    obtain rfl := List.append_cancel_right parts
    exact ih.extend (written.head?_ne_tree rfl) _
      (pieces_bracket negated first inner rest plain free)
      (fun _ _ means => means.bracket negated first inner plain free) (by simp)
  | literal before char rest tokens noOne noRun noBracket written ih =>
    by_cases slash : char = '/'
    · subst slash
      exact .next [] _ [] tokens (by decide) .nil ih
    · refine ih.extend (written.head?_ne_tree (by simp [slash])) (char :: ·)
        (pieces_cons _ _ slash noBracket)
        (fun _ _ means => means.literal char noOne noRun noBracket slash) ?_
      rintro piece more parts same
      simp_all

section Laying

variable (segments : List Segment) (components : List (List Char))

theorem laid_nil_iff : Laid [] components ↔ components = [] := by
  constructor
  · intro laid
    cases laid
    rfl
  · rintro rfl
    exact .nothing

theorem laid_part_iff (part : List Char) :
    Laid (.part part :: segments) components ↔
      ∃ component rest, components = component :: rest ∧ Covers part component ∧
        Laid segments rest := by
  constructor
  · intro laid
    cases laid with
    | part _ component _ rest covers laid => exact ⟨component, rest, rfl, covers, laid⟩
  · rintro ⟨component, rest, rfl, covers, laid⟩
    exact .part part component segments rest covers laid

theorem laid_tree_iff (more : segments ≠ []) :
    Laid (.tree :: segments) components ↔
      ∃ skipped kept, components = skipped ++ kept ∧ Laid segments kept := by
  constructor
  · intro laid
    cases laid with
    | tree skipped _ kept _ laid => exact ⟨skipped, kept, rfl, laid⟩
    | rest => exact absurd rfl more
  · rintro ⟨skipped, kept, rfl, laid⟩
    exact .tree skipped segments kept more laid

theorem laid_last_iff : Laid [.tree] components ↔ components ≠ [] := by
  constructor
  · intro laid
    cases laid with
    | tree _ _ _ more => exact absurd rfl more
    | rest _ given => exact given
  · exact .rest components

variable {segments components}

theorem Laid.components_ne_nil (laid : Laid segments components) (given : segments ≠ []) :
    components ≠ [] := by
  induction laid with
  | nothing => exact absurd rfl given
  | part => simp
  | tree skipped segments components more _ ih => simp [ih more]
  | rest components filled => exact filled

theorem Laid.length_eq (laid : Laid segments components) (noTree : .tree ∉ segments) :
    components.length = segments.length := by
  induction laid with
  | nothing => rfl
  | part part component segments components _ _ ih =>
    rw [List.length_cons, List.length_cons, ih (by simpa using noTree)]
  | tree | rest => simp at noTree

end Laying

namespace Segment

theorem ofPieces_ne_nil (parts : List (List Char)) (given : parts ≠ []) : ofPieces parts ≠ [] := by
  unfold ofPieces
  split <;> simp_all

theorem ofPieces_part (piece : List Char) (rest : List (List Char)) (other : piece ≠ ['*', '*']) :
    ofPieces (piece :: rest) = .part piece :: ofPieces rest := by
  rw [ofPieces, if_neg other]
  simp [other]

theorem ofPieces_tree (rest : List (List Char)) (more : rest ≠ [[]]) :
    ofPieces (['*', '*'] :: rest) = .tree :: ofPieces rest := by
  rw [ofPieces, if_pos rfl]
  simp [more]

end Segment

/-- The tokens accord with a path if the segments can be laid along its components. -/
theorem Spelled.accords_iff {parts : List (List Char)} {tokens : List Token}
    (spelled : Spelled parts tokens) (path : List Char) :
    Accords tokens path ↔ Laid (Segment.ofPieces parts) (Text.pieces '/' path) := by
  induction spelled generalizing path with
  | last piece tokens other means =>
    rw [means.accords_iff, Segment.ofPieces_part piece [] other, laid_part_iff]
    constructor
    · rintro ⟨bare, covers⟩
      exact ⟨path, [], Text.pieces_of_notMem '/' path bare, covers, .nothing⟩
    · rintro ⟨component, rest, same, covers, laid⟩
      obtain rfl := (laid_nil_iff rest).mp laid
      obtain ⟨bare, ⟨rfl, _⟩ | ⟨later, _, empty⟩⟩ := (Text.pieces_eq_cons_iff '/' path _ _).mp same
      · exact ⟨bare, covers⟩
      · exact absurd empty (Text.pieces_ne_nil '/' later)
  | next piece rest tokens others other means spelled ih =>
    have given : rest ≠ [] := by cases spelled <;> simp
    rw [Segment.ofPieces_part piece rest other, laid_part_iff,
      accords_append_iff tokens _ path means.noTree]
    constructor
    · rintro ⟨left, _, rfl, first, second⟩
      obtain ⟨char, right, rfl, accepts, accords⟩ :=
        (accords_single_iff (.literal '/') others _ nofun nofun).mp second
      obtain rfl : '/' = char := by simpa using accepts
      obtain ⟨bare, covers⟩ := (means.accords_iff left).mp first
      refine ⟨left, Text.pieces '/' right, ?_, covers, (ih right).mp accords⟩
      exact (Text.pieces_eq_cons_iff '/' _ _ _).mpr ⟨bare, .inr ⟨right, rfl, rfl⟩⟩
    · rintro ⟨component, components, same, covers, laid⟩
      have filled := laid.components_ne_nil (Segment.ofPieces_ne_nil rest given)
      obtain ⟨bare, ⟨_, rfl⟩ | ⟨later, rfl, rfl⟩⟩ := (Text.pieces_eq_cons_iff '/' path _ _).mp same
      · exact absurd rfl filled
      · exact ⟨component, '/' :: later, rfl, (means.accords_iff component).mpr ⟨bare, covers⟩,
          .single _ '/' others later rfl ((ih later).mpr laid)⟩
  | treeEnd | treeSlash =>
    exact iff_of_true (.rest path) (.rest _ (Text.pieces_ne_nil '/' path))
  | tree rest others noEnd more spelled ih =>
    have given : rest ≠ [] := by cases spelled <;> simp
    have segments := Segment.ofPieces_ne_nil rest given
    rw [Segment.ofPieces_tree rest noEnd, laid_tree_iff _ _ segments,
      accords_tree_iff others path more]
    simp only [ih]
    constructor
    · rintro (laid | ⟨above, later, rfl, laid⟩)
      · exact ⟨[], _, rfl, laid⟩
      · exact ⟨_, _, Text.pieces_append_mark '/' above later, laid⟩
    · rintro ⟨skipped, kept, same, laid⟩
      by_cases none : skipped = []
      · subst none
        exact .inl (same ▸ laid)
      · have filled := laid.components_ne_nil segments
        obtain ⟨above, later, rfl, _, rfl⟩ :=
          (Text.pieces_eq_append_iff '/' path skipped kept none filled).mp same
        exact .inr ⟨above, later, rfl, laid⟩

theorem matchesChars_iff_laid (text : String) (glob : Glob) (compiled : compile text = .ok glob)
    (path : List Char) :
    glob.matchesChars path = true ↔ Laid (segments text) (Text.pieces '/' path) := by
  obtain ⟨_, written⟩ := written_of_compile text glob compiled
  rw [matchesChars_iff, written.spelled.accords_iff, segments]

/-- Two stars stand for any number of components of a path, at the end for one or more; every other
segment stands for one component and has to match all of it. So nothing in a glob but a slash and
two stars goes beyond a component. Trying one way after the other finds the same matches, also where
it is given up early. -/
theorem matches_by_segments (text : String) (glob : Glob) (compiled : compile text = .ok glob) :
    (∀ components : List (List Char), components ≠ [] →
      (∀ component ∈ components, '/' ∉ component) →
        (glob.matchesChars (['/'].intercalate components) = true ↔
          Laid (segments text) components)) ∧
    (∀ path : List Char, glob.matchesChars path = true → .tree ∉ segments text →
      path.count '/' + 1 = (segments text).length) ∧
    ∀ path : List Char,
      seek (squeezed glob.tokens) path = .found ↔ glob.matchesChars path = true := by
  refine ⟨?_, ?_, ?_⟩
  · intro components given bare
    rw [matchesChars_iff_laid text glob compiled, Text.pieces_intercalate '/' components given bare]
  · intro path matched noTree
    have laid := (matchesChars_iff_laid text glob compiled path).mp matched
    rw [← laid.length_eq noTree, Text.length_pieces]
  · exact seek_found_iff text glob compiled

theorem segments_of_src :
    ∃ glob, compile "src/[!x]*" = .ok glob ∧
      segments "src/[!x]*" = [.part "src".toList, .part "[!x]*".toList] ∧
      (glob.matchesChars "src/ab".toList = true ↔
        Laid (segments "src/[!x]*") ["src".toList, "ab".toList]) ∧
      glob.matchesChars "src/ab".toList = true ∧
      "src/ab".toList.count '/' + 1 = (segments "src/[!x]*").length := by
  have matched : ∃ glob, compile "src/[!x]*" = .ok glob ∧
      glob.matchesChars "src/ab".toList = true := ⟨_, rfl, by decide +kernel⟩
  obtain ⟨glob, compiled, holds⟩ := matched
  have parts : segments "src/[!x]*" = [.part "src".toList, .part "[!x]*".toList] := by decide
  obtain ⟨laid, level, _⟩ := matches_by_segments "src/[!x]*" glob compiled
  exact ⟨glob, compiled, parts, laid ["src".toList, "ab".toList] (by simp) (by decide), holds,
    level _ holds (by rw [parts]; decide)⟩

end PatternLint.Glob
