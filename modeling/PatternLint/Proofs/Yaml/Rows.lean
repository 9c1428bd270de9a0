import PatternLint.Proofs.Yaml.Value

namespace PatternLint.Yaml

structure Line where
  column : Nat
  text : List Char

def Line.render (line : Line) : List Char :=
  List.replicate line.column ' ' ++ (line.text ++ ['\n'])

def render (lines : List Line) : List Char := lines.flatMap Line.render

theorem render_append (first second : List Line) :
    render (first ++ second) = render first ++ render second :=
  List.flatMap_append

def front : List Line → Nat
  | [] => 0
  | line :: _ => line.column

def shown : List Line → List Char
  | [] => []
  | line :: lines => line.text ++ '\n' :: render lines

theorem render_eq (lines : List Line) :
    render lines = List.replicate (front lines) ' ' ++ shown lines := by
  cases lines with
  | nil => rfl
  | cons line lines => simp [render, Line.render, front, shown]

def AllBegin (lines : List Line) : Prop :=
  ∀ line ∈ lines, ∃ char rest, line.text = char :: rest ∧ isVisible char = true

theorem allBegin_nil : AllBegin [] := by
  simp [AllBegin]

theorem begins_shown (lines : List Line) (begin : AllBegin lines) : Begins (shown lines) := by
  cases lines with
  | nil => exact fun char first => absurd first (by simp [shown])
  | cons line lines =>
    obtain ⟨char, rest, same, visible⟩ := begin line List.mem_cons_self
    rw [shown, same]
    exact begins_cons char _ visible

/-- The cursor stands before the first of some lines, which are all that is left. -/
def Cursor.IsBefore (cursor : Cursor) (lines : List Line) : Prop :=
  cursor.Stands (shown lines) (front lines)

theorem isBefore_afterLine (cursor : Cursor) (lines : List Line)
    (stands : cursor.rest = '\n' :: render lines) :
    (cursor.afterLine (front lines)).IsBefore lines :=
  Cursor.stands_afterLine cursor (front lines) (shown lines) (by rw [stands, render_eq])

/-- What begins here is no mark between documents and no entry of a list, and nothing is said about
it or about the document first. -/
structure Cursor.Opens (cursor : Cursor) : Prop where
  begins : Begins cursor.rest
  going : cursor.isAtEnd = false
  entry : cursor.isAt '-' = false
  asked : cursor.isAt '?' = false
  name : cursor.rest.head? ≠ some '&'
  tag : cursor.rest.head? ≠ some '!'
  directive : cursor.rest.head? ≠ some '%'

theorem opens_of_head (cursor : Cursor) (char : Char) (rest : List Char)
    (stands : cursor.rest = char :: rest)
    (head : char = '"' ∨ char = '[' ∨ isWordChar char = true) : cursor.Opens := by
  have visible : isVisible char = true := by
    rcases head with rfl | rfl | inside
    · rfl
    · rfl
    · exact isVisible_of_isWordChar inside
  have other (mark : Char) (quote : mark ≠ '"') (bracket : mark ≠ '[')
      (outside : isWordChar mark = false) : char ≠ mark := by
    rcases head with rfl | rfl | inside
    · exact quote.symm
    · exact bracket.symm
    · exact Text.ne_of_kinds isWordChar inside outside
  have dash : char ≠ '-' := other '-' (by decide) (by decide) rfl
  have asked : char ≠ '?' := other '?' (by decide) (by decide) rfl
  have marker := Cursor.isAtMarker_eq_false cursor char rest stands dash
    (other '.' (by decide) (by decide) rfl)
  exact {
    begins := stands ▸ begins_cons char rest visible
    going := by simp [Cursor.isAtEnd, stands, marker]
    entry := by simp [Cursor.isAt, stands, dash]
    asked := by simp [Cursor.isAt, stands, asked]
    name := by simpa [stands] using other '&' (by decide) (by decide) rfl
    tag := by simpa [stands] using other '!' (by decide) (by decide) rfl
    directive := by simpa [stands] using other '%' (by decide) (by decide) rfl }

namespace Reader

open Config (Content)

section Values

theorem run_settle_nodeOf (content : Content) (cursor : Cursor) :
    (settle {} (nodeOf content)).run cursor = some (nodeOf content, cursor) := by
  cases content with
  | text value => exact run_settle_scalar cursor .quoted value
  | texts values => exact run_settle_list cursor _
  | flag value => exact run_settle_scalar cursor .plain _
  | count value => exact run_settle_scalar cursor .plain _

variable (quote : String → List Char) (quotes : Text.Quotes escapes quote)

include quotes

theorem run_readBlockNode_written (content : Content) (fuel floor : Nat) (level : Bool)
    (cursor : Cursor) (lines : List Line)
    (stands : cursor.rest = ' ' :: (content.written quote ++ '\n' :: render lines))
    (allowed : cursor.keyAllowed = false) (inside : floor ≤ cursor.column + 1)
    (begin : AllBegin lines) (outside : front lines < floor)
    (enough : (content.written quote).length < fuel) :
    ∃ finish, (readBlockNode (fuel + 2) floor level {}).run cursor =
      some (nodeOf content, finish) ∧ finish.IsBefore lines := by
  obtain ⟨first, rest, written, head⟩ := Config.written_begins quote quotes content
  have next : (cursor.advance 1).rest =
      content.written quote ++ '\n' :: (List.replicate (front lines) ' ' ++ shown lines) := by
    rw [Cursor.rest_advance, stands, render_eq]
    rfl
  have opens : (cursor.advance 1).Opens := by
    refine opens_of_head _ first _ (by rw [next, written]; rfl) ?_
    rcases head with quote | bracket | letter
    · exact .inl quote
    · exact .inr (.inl bracket)
    · exact .inr (.inr (by simp [isWordChar, letter]))
  have blank := run_skip_blanks cursor false 1 (content.written quote ++ '\n' :: render lines)
    stands (by rw [render_eq, ← next]; exact opens.begins)
  have properties := run_readProperties (cursor.advance 1) false (cursor.advance 1).line 3
    opens.name opens.tag
  obtain ⟨finish, read, ends⟩ := run_readContent_written quote quotes content fuel floor _ _ _ next
    (begins_shown lines begin) outside enough
  refine ⟨_, ?_, isBefore_afterLine
    (((cursor.advance 1).advance (content.written quote).length).allow false) lines ?_⟩
  · have right : ¬ cursor.column + 1 < floor := Nat.not_lt.mpr inside
    have key (reached : Cursor) : isKey false (cursor.advance 1) reached = false := by
      simp [isKey, allowed]
    have merged : Properties.merge {} {} = some {} := rfl
    have isGiven : Properties.isGiven {} = false := rfl
    rw [readBlockNode]
    simp [blank, opens.going, opens.entry, opens.asked, right, properties, isGiven, read, ends, key,
      merged, run_settle_nodeOf]
  · rw [render_eq]
    exact Cursor.rest_advance_append next

theorem run_readRowValue_written (content : Content) (fuel column : Nat) (cursor : Cursor)
    (lines : List Line)
    (stands : cursor.rest = ':' :: ' ' :: (content.written quote ++ '\n' :: render lines))
    (inside : column ≤ cursor.column) (begin : AllBegin lines) (outside : front lines ≤ column)
    (enough : (content.written quote).length < fuel) :
    ∃ finish, (readRowValue (fuel + 3) column false).run cursor =
      some (nodeOf content, finish) ∧ finish.IsBefore lines := by
  have next : ((cursor.advance 1).allow false).rest =
      ' ' :: (content.written quote ++ '\n' :: render lines) := by
    rw [Cursor.rest_allow, Cursor.rest_advance, stands]
    rfl
  obtain ⟨finish, read, arrived⟩ := run_readBlockNode_written quote quotes content fuel (column + 1)
    true ((cursor.advance 1).allow false) lines next rfl (by simp; omega) begin (by omega) enough
  refine ⟨finish, ?_, arrived⟩
  rw [readRowValue]
  simp [read]

end Values

section Keys

structure IsWord (key : List Char) : Prop where
  given : key ≠ []
  inside : ∀ char ∈ key, isWordChar char = true
  short : key.length ≤ keyLimit

def keyNode (key : List Char) : Node := .scalar none .plain (String.ofList key)

variable (fuel : Nat) (cursor : Cursor) (key rest : List Char) (word : IsWord key)
  (stands : cursor.rest = key ++ ':' :: rest) (gap : atGap rest = true)

include word stands

theorem opens_key : cursor.Opens := by
  obtain ⟨char, more, rfl⟩ := List.exists_cons_of_ne_nil word.given
  exact opens_of_head cursor char _ stands (.inr (.inr (word.inside char List.mem_cons_self)))

include gap

theorem reads_key (floor : Nat) (allowed : cursor.keyAllowed = true) :
    (readContent (fuel + 1) false floor false).run cursor =
        some (keyNode key, (cursor.advance key.length).allow false) ∧
      (skip false).run ((cursor.advance key.length).allow false) =
        some ((), (cursor.advance key.length).allow false) ∧
      isKey false cursor ((cursor.advance key.length).allow false) = true := by
  have next : (cursor.advance key.length).rest = ':' :: rest := Cursor.rest_advance_append stands
  refine ⟨run_readContent_key fuel floor cursor key rest word.given word.inside stands gap, ?_, ?_⟩
  · exact run_skip_begins _ false (next ▸ begins_cons ':' rest rfl)
  · have line : ((cursor.advance key.length).allow false).line = cursor.line := rfl
    have index : ((cursor.advance key.length).allow false).index = cursor.index + key.length := rfl
    simp [isKey, allowed, line, index, word.short, Cursor.isAt, next, gap]

variable {value : Node} {reached finish : Cursor} {rows : List (Node × Node)} {column : Nat}

theorem run_readRows_row (allowed : cursor.keyAllowed = true) (level : cursor.column = column)
    (read : (readRowValue (fuel + 1) column false).run ((cursor.advance key.length).allow false) =
      some (value, reached))
    (further : (readRows (fuel + 1) column).run reached = some (rows, finish)) :
    (readRows (fuel + 2) column).run cursor = some ((keyNode key, value) :: rows, finish) := by
  have opens := opens_key cursor key rest word stands
  obtain ⟨content, stays, isKey⟩ :=
    reads_key fuel cursor key rest word stands gap (column + 1) allowed
  have begins := run_skip_begins cursor false opens.begins
  have properties := run_readProperties cursor false cursor.line 3 opens.name opens.tag
  have isGiven : Properties.isGiven {} = false := rfl
  have settled :=
    run_settle_scalar ((cursor.advance key.length).allow false) .plain (String.ofList key)
  rw [readRows]
  simp [begins, opens.going, opens.asked, level, allowed, properties, isGiven, content, keyNode,
    settled, stays, isKey, read, further]

theorem run_readBlockNode_table (before : Cursor) (floor : Nat) (deep : Bool)
    (skipped : (skip false).run before = some ((), cursor)) (allowed : cursor.keyAllowed = true)
    (level : cursor.column = column) (inside : floor ≤ column)
    (read : (readRowValue (fuel + 1) column false).run ((cursor.advance key.length).allow false) =
      some (value, reached))
    (further : (readRows (fuel + 1) column).run reached = some (rows, finish)) :
    (readBlockNode (fuel + 2) floor deep {}).run before =
      some (.table ((keyNode key, value) :: rows), finish) := by
  have opens := opens_key cursor key rest word stands
  obtain ⟨content, stays, isKey⟩ := reads_key fuel cursor key rest word stands gap floor allowed
  have properties := run_readProperties cursor false cursor.line 3 opens.name opens.tag
  have isGiven : Properties.isGiven {} = false := rfl
  have settled :=
    run_settle_scalar ((cursor.advance key.length).allow false) .plain (String.ofList key)
  have right : ¬ column < floor := Nat.not_lt.mpr inside
  rw [readBlockNode]
  simp [skipped, opens.going, opens.entry, opens.asked, level, right, properties, isGiven, content,
    keyNode, settled, stays, isKey, read, further, run_settle_table]

end Keys

section Tables

variable (quote : String → List Char)

def fieldLine (column : Nat) (field : String × Content) : Line where
  column := column
  text := field.1.toList ++ (':' :: ' ' :: field.2.written quote)

def fieldRow (field : String × Content) : Node × Node := (keyNode field.1.toList, nodeOf field.2)

theorem opens_fieldLine (cursor : Cursor) (column : Nat) (field : String × Content)
    (word : IsWord field.1.toList) (lines : List Line)
    (before : cursor.IsBefore (fieldLine quote column field :: lines)) : cursor.Opens := by
  apply opens_key cursor field.1.toList
    (' ' :: (field.2.written quote ++ '\n' :: render lines)) word
  rw [before.rest]
  simp [shown, fieldLine]

/-- What is read at some lines ends at later ones, if there is fuel for what is left. -/
def Reading {Value : Type} (read : (fuel : Nat) → Reader Value) (lines : List Line) (value : Value)
    (later : List Line) : Prop :=
  ∀ cursor fuel, cursor.IsBefore lines → 4 * cursor.rest.length + 4 ≤ fuel →
    ∃ finish, (read fuel).run cursor = some (value, finish) ∧ finish.IsBefore later

variable (quotes : Text.Quotes escapes quote)

theorem reading_rows_end (column : Nat) (later : List Line) (begin : AllBegin later)
    (left : later = [] ∨ front later < column) :
    Reading (readRows · column) later [] later := by
  intro cursor fuel before enough
  obtain ⟨fuel, rfl⟩ : ∃ more, fuel = more + 1 := Nat.exists_eq_add_of_le' (by omega)
  have stays := run_skip_begins cursor false (before.rest ▸ begins_shown later begin)
  have ends : cursor.isAtEnd = true ∨ cursor.column < column := by
    rcases left with rfl | left
    · exact .inl (by simp [Cursor.isAtEnd, before.rest, shown])
    · exact .inr (before.column ▸ left)
  have run : (readRows (fuel + 1) column).run cursor = some ([], cursor) := by
    rw [readRows]
    simp [stays, ends]
  exact ⟨cursor, run, before⟩

theorem length_shown_le (lines : List Line) : (shown lines).length ≤ (render lines).length := by
  rw [render_eq, List.length_append]
  omega

section Fields

variable (column : Nat) (field : String × Content) (word : IsWord field.1.toList)
  (lines later : List Line) (begin : AllBegin lines) (outside : front lines ≤ column)
  (rows : List (Node × Node)) (further : Reading (readRows · column) lines rows later)

include quotes begin outside further

theorem reads_field (cursor : Cursor) (fuel : Nat)
    (before : cursor.IsBefore (fieldLine quote column field :: lines))
    (enough : 4 * cursor.rest.length + 4 ≤ fuel) :
    ∃ less rest reached finish, fuel = less + 2 ∧
      cursor.rest = field.1.toList ++ ':' :: rest ∧ atGap rest = true ∧
      (readRowValue (less + 1) column false).run
          ((cursor.advance field.1.toList.length).allow false) =
        some (nodeOf field.2, reached) ∧
      (readRows (less + 1) column).run reached = some (rows, finish) ∧ finish.IsBefore later := by
  have size := length_shown_le lines
  have stands : cursor.rest = field.1.toList ++
      ':' :: ' ' :: (field.2.written quote ++ '\n' :: render lines) := by
    rw [before.rest]
    simp [shown, fieldLine]
  have length := congrArg List.length stands
  simp only [List.length_append, List.length_cons] at length
  obtain ⟨fuel, rfl⟩ : ∃ more, fuel = more + 4 := Nat.exists_eq_add_of_le' (by omega)
  have level : cursor.column = column := before.column
  obtain ⟨reached, read, arrived⟩ := run_readRowValue_written quote quotes field.2 fuel column
    ((cursor.advance field.1.toList.length).allow false) lines (Cursor.rest_advance_append stands)
    (by simp [level]) begin outside (by omega)
  obtain ⟨finish, rest, ended⟩ := further reached (fuel + 3) arrived (by rw [arrived.rest]; omega)
  exact ⟨fuel + 2, _, reached, finish, rfl, stands, rfl, read, rest, ended⟩

include word

theorem reading_rows_field : Reading (readRows · column) (fieldLine quote column field :: lines)
    (fieldRow field :: rows) later := by
  intro cursor fuel before enough
  obtain ⟨fuel, rest, reached, finish, rfl, stands, gap, value, read, ended⟩ := reads_field quote
    quotes column field lines later begin outside rows further cursor fuel before enough
  exact ⟨finish, run_readRows_row fuel cursor _ rest word stands gap before.keyAllowed before.column
    value read, ended⟩

/-- Whether blanks stand before the first key or not, a table is read. -/
theorem run_readBlockNode_fields (cursor start : Cursor) (fuel floor : Nat) (deep : Bool)
    (skipped : (skip false).run cursor = some ((), start))
    (before : start.IsBefore (fieldLine quote column field :: lines)) (inside : floor ≤ column)
    (enough : 4 * start.rest.length + 4 ≤ fuel) :
    ∃ finish, (readBlockNode fuel floor deep {}).run cursor =
      some (.table (fieldRow field :: rows), finish) ∧ finish.IsBefore later := by
  obtain ⟨fuel, rest, reached, finish, rfl, stands, gap, value, read, ended⟩ := reads_field quote
    quotes column field lines later begin outside rows further start fuel before enough
  exact ⟨finish, run_readBlockNode_table fuel start _ rest word stands gap cursor floor deep skipped
    before.keyAllowed before.column inside value read, ended⟩

end Fields

theorem allBegin_fieldLines (column : Nat) (fields : List (String × Content))
    (words : ∀ field ∈ fields, IsWord field.1.toList) :
    AllBegin (fields.map (fieldLine quote column)) := by
  intro line member
  obtain ⟨field, present, rfl⟩ := List.mem_map.mp member
  have word := words field present
  obtain ⟨char, rest, same⟩ := List.exists_cons_of_ne_nil word.given
  refine ⟨char, _, by rw [fieldLine, same]; rfl, isVisible_of_isWordChar (word.inside char ?_)⟩
  rw [same]
  exact List.mem_cons_self

theorem front_fieldLines (column : Nat) (fields : List (String × Content)) (lines : List Line)
    (outside : front lines ≤ column) :
    front (fields.map (fieldLine quote column) ++ lines) ≤ column := by
  cases fields with
  | nil => exact outside
  | cons field fields => exact Nat.le_refl column

theorem allBegin_append {first second : List Line} (before : AllBegin first)
    (behind : AllBegin second) : AllBegin (first ++ second) := by
  intro line member
  rcases List.mem_append.mp member with member | member
  · exact before line member
  · exact behind line member

include quotes

theorem reading_rows_fields (column : Nat) (fields : List (String × Content))
    (words : ∀ field ∈ fields, IsWord field.1.toList) (lines later : List Line)
    (begin : AllBegin lines) (outside : front lines ≤ column) (rows : List (Node × Node))
    (further : Reading (readRows · column) lines rows later) :
    Reading (readRows · column) (fields.map (fieldLine quote column) ++ lines)
      (fields.map fieldRow ++ rows) later := by
  induction fields with
  | nil => exact further
  | cons field fields ih =>
    have others := fun other member => words other (List.mem_cons_of_mem _ member)
    exact reading_rows_field quote quotes column field (words field List.mem_cons_self) _ later
      (allBegin_append (allBegin_fieldLines quote column fields others) begin)
      (front_fieldLines quote column fields lines outside) _ (ih others)

end Tables

end Reader

end PatternLint.Yaml
