import PatternLint.Proofs.Text.Quoting
import PatternLint.Proofs.Yaml.Cursor
import PatternLint.Yaml.Text

namespace PatternLint.Yaml

section Gaps

def EndsGap (text : List Char) : Prop :=
  ∀ char ∈ text.head?, isBlank char = false ∧ isBreak char = false

theorem endsGap_cons (char : Char) (rest : List Char) (blank : isBlank char = false)
    (line : isBreak char = false) : EndsGap (char :: rest) := by
  intro first same
  rw [List.head?_cons, Option.mem_some] at same
  rw [← same]
  exact ⟨blank, line⟩

theorem not_isBlank_of_isVisible {char : Char} (visible : isVisible char = true) :
    isBlank char = false ∧ isBreak char = false := by
  simp only [isVisible, Bool.not_eq_true', Bool.or_eq_false_iff] at visible
  exact ⟨visible.1.1.2, visible.1.1.1⟩

theorem Begins.endsGap {text : List Char} (begins : Begins text) : EndsGap text :=
  fun char first => not_isBlank_of_isVisible (begins char first)

variable (floor fuel : Nat) {cursor : Cursor}

theorem run_readGap_stop (gap : Gap) (stop : EndsGap cursor.rest) :
    (readGap floor fuel gap).run cursor = some (gap, cursor) := by
  cases fuel with
  | zero => rfl
  | succ fuel =>
    cases stands : cursor.rest with
    | nil => simp [readGap, stands]
    | cons char rest =>
      obtain ⟨blank, line⟩ := stop char (by rw [stands]; rfl)
      simp [readGap, stands, blank, line]

theorem run_readGap_blanks (count : Nat) (before text : List Char)
    (stands : cursor.rest = List.replicate count ' ' ++ text) (stop : EndsGap text)
    (enough : count ≤ fuel) :
    (readGap floor fuel ⟨before, []⟩).run cursor =
      some (⟨before ++ List.replicate count ' ', []⟩, cursor.advance count) := by
  induction count generalizing fuel before cursor with
  | zero =>
    rw [List.replicate_zero, List.append_nil, Cursor.advance_zero]
    rw [List.replicate_zero, List.nil_append] at stands
    exact run_readGap_stop floor fuel _ (stands ▸ stop)
  | succ count ih =>
    obtain ⟨fuel, rfl⟩ : ∃ more, fuel = more + 1 := Nat.exists_eq_add_of_le' (by omega)
    rw [List.replicate_succ, List.cons_append] at stands
    have next : (cursor.advance 1).rest = List.replicate count ' ' ++ text := by
      rw [Cursor.rest_advance, stands]
      rfl
    have further := ih fuel (before ++ [' ']) next (by omega)
    rw [Cursor.advance_advance, Nat.add_comm 1 count] at further
    simpa [readGap, stands, isBreak, isBlank, List.replicate_succ] using further

theorem run_readGap_indentation (count : Nat) (gap : Gap) (text : List Char)
    (stands : cursor.rest = List.replicate count ' ' ++ text) (stop : EndsGap text)
    (given : gap.breaks.isEmpty = false) (enough : count ≤ fuel) :
    (readGap floor fuel gap).run cursor = some (gap, cursor.advance count) := by
  induction count generalizing fuel cursor with
  | zero =>
    rw [Cursor.advance_zero]
    rw [List.replicate_zero, List.nil_append] at stands
    exact run_readGap_stop floor fuel _ (stands ▸ stop)
  | succ count ih =>
    obtain ⟨fuel, rfl⟩ : ∃ more, fuel = more + 1 := Nat.exists_eq_add_of_le' (by omega)
    rw [List.replicate_succ, List.cons_append] at stands
    have next : (cursor.advance 1).rest = List.replicate count ' ' ++ text := by
      rw [Cursor.rest_advance, stands]
      rfl
    have further := ih fuel next (by omega)
    rw [Cursor.advance_advance, Nat.add_comm 1 count] at further
    simpa [readGap, stands, isBreak, isBlank, given] using further

theorem run_readGap_line (count : Nat) (text : List Char)
    (stands : cursor.rest = '\n' :: (List.replicate count ' ' ++ text)) (stop : EndsGap text)
    (enough : count < fuel) :
    (readGap floor fuel ⟨[], []⟩).run cursor =
      some (⟨[], ['\n']⟩, cursor.nextLine.advance count) := by
  obtain ⟨fuel, rfl⟩ : ∃ more, fuel = more + 1 := Nat.exists_eq_add_of_le' (by omega)
  have next : cursor.nextLine.rest = List.replicate count ' ' ++ text := Cursor.rest_nextLine stands
  have further := run_readGap_indentation floor fuel count ⟨[], ['\n']⟩ text next stop rfl
    (by omega)
  simpa [readGap, stands, isBreak, breakChar] using further

end Gaps

section Words

def isWordChar (char : Char) : Bool := char.isAlphanum || char = '_'

theorem isWordChar_of_isDigit (char : Char) (digit : char.isDigit = true) :
    isWordChar char = true := by
  simp [isWordChar, Char.isAlphanum, digit]

theorem isVisible_of_isWordChar {char : Char} (inside : isWordChar char = true) :
    isVisible char = true := by
  rcases Bool.or_eq_true_iff.mp inside with letter | line
  · exact isVisible_of_isAlphanum char letter
  · rw [of_decide_eq_true line]
    rfl

theorem plainRun_word (word rest : List Char) (inside : ∀ char ∈ word, isWordChar char = true)
    (stop : plainRun false rest = some ([], rest)) :
    plainRun false (word ++ rest) = some (word, rest) := by
  induction word with
  | nil => exact stop
  | cons char word ih =>
    have begins := inside char List.mem_cons_self
    have further := ih fun next member => inside next (List.mem_cons_of_mem _ member)
    have colon : char ≠ ':' := Text.ne_of_kinds isWordChar begins rfl
    obtain ⟨blank, line⟩ := not_isBlank_of_isVisible (isVisible_of_isWordChar begins)
    simp [plainRun, blank, line, colon, further]

theorem plainRun_colon (rest : List Char) (gap : atGap rest = true) :
    plainRun false (':' :: rest) = some ([], ':' :: rest) := by
  simp [plainRun, gap]

theorem plainRun_line (rest : List Char) :
    plainRun false ('\n' :: rest) = some ([], '\n' :: rest) :=
  rfl

section

variable {floor : Nat} {cursor : Cursor}

/-- A scalar without quotes ends before what can be no part of one. -/
theorem run_plainMore_stop (fuel : Nat) (text : List Char) (ends : EndsGap cursor.rest)
    (stop : plainRun false cursor.rest = some ([], cursor.rest)) :
    (plainMore false floor fuel text).run cursor = some (text, cursor) := by
  cases fuel with
  | zero => rfl
  | succ fuel =>
    have gap := run_readGap_stop floor cursor.rest.length ⟨[], []⟩ ends
    simp [plainMore, gap, stop]

/-- What follows on the next line is not indented enough to go on with the scalar. -/
theorem run_plainMore_line (fuel : Nat) (word : List Char) (count : Nat) (text : List Char)
    (stands : cursor.rest = '\n' :: (List.replicate count ' ' ++ text)) (begins : Begins text)
    (outside : count < floor) :
    (plainMore false floor (fuel + 1) word).run cursor = some (word, cursor.afterLine count) := by
  have enough : count < cursor.rest.length := by
    rw [stands, List.length_cons, List.length_append, List.length_replicate]
    omega
  have gap := run_readGap_line floor _ count text stands begins.endsGap enough
  have idle : plainGoesOn false floor (cursor.nextLine.advance count) = false := by
    simp [plainGoesOn, Nat.not_le.mpr outside]
  simp [plainMore, gap, idle, Cursor.afterLine]

end

variable (floor : Nat) (cursor : Cursor) (word rest : List Char)
  (inside : ∀ char ∈ word, isWordChar char = true)

include inside

theorem run_readPlain_word (stands : cursor.rest = word ++ rest)
    (stop : plainRun false rest = some ([], rest)) :
    (readPlain false floor).run cursor =
      (plainMore false floor cursor.rest.length word).run
        ((cursor.advance word.length).allow false) := by
  have run := plainRun_word word rest inside stop
  have goes : (cursor.allow false).advanceTo rest = (cursor.advance word.length).allow false :=
    Cursor.advanceTo_append stands
  rw [← stands] at run
  simp [readPlain, run, goes]

theorem run_readPlain_key (stands : cursor.rest = word ++ ':' :: rest) (gap : atGap rest = true) :
    (readPlain false floor).run cursor =
      some (word, (cursor.advance word.length).allow false) := by
  have stop := plainRun_colon rest gap
  have next : (cursor.advance word.length).rest = ':' :: rest :=
    Cursor.rest_advance_append stands
  rw [run_readPlain_word floor cursor word _ inside stands stop]
  apply run_plainMore_stop
  · exact next ▸ endsGap_cons ':' rest rfl rfl
  · exact next ▸ stop

theorem run_readPlain_line (count : Nat) (text : List Char)
    (stands : cursor.rest = word ++ '\n' :: (List.replicate count ' ' ++ text))
    (begins : Begins text) (outside : count < floor) :
    (readPlain false floor).run cursor =
      some (word, ((cursor.advance word.length).allow false).afterLine count) := by
  have next : (cursor.advance word.length).rest = '\n' :: (List.replicate count ' ' ++ text) :=
    Cursor.rest_advance_append stands
  obtain ⟨fuel, length⟩ : ∃ fuel, cursor.rest.length = fuel + 1 :=
    Nat.exists_eq_add_of_le' (by simp [stands]; omega)
  rw [run_readPlain_word floor cursor word _ inside stands (plainRun_line _), length]
  exact run_plainMore_line fuel word count text next begins outside

end Words

section Quotes

open Text (Spelled)

theorem of_isPlain (char : Char) (stands : Text.isPlain char = true) (other : char ≠ ' ') :
    char ≠ '"' ∧ char ≠ '\\' ∧ isBlank char = false ∧ isBreak char = false := by
  have mark (mark : Char) (outside : Text.isPlain mark = false) : char ≠ mark :=
    Text.ne_of_kinds Text.isPlain stands outside
  refine ⟨mark _ rfl, mark _ rfl, ?_, ?_⟩
  · simp [isBlank, other, mark '\t' rfl]
  · simp [isBreak, mark '\n' rfl, mark '\x0d' rfl, mark '\x85' rfl, mark '\u2028' rfl,
      mark '\u2029' rfl]

theorem head_escape (char : Char) (tail rest : List Char) (behind : Text.Escape escapes char tail) :
    (tail ++ rest).head?.any isBreak = false := by
  have none : (Text.marks escapes).any isBreak = false := rfl
  obtain ⟨letter, digits, rfl, mark, _⟩ := Text.parts_of_escape escapes char tail behind
  exact Bool.eq_false_iff.mpr (List.any_eq_false.mp none letter mark)

/-- A stretch goes up to the first blank. -/
theorem doubleRun_spelled (text body rest : List Char) (spelled : Spelled escapes text body)
    (fuel : Nat) (enough : body.length < fuel) :
    ∃ run front text' body', text = run ++ text' ∧ body = front ++ body' ∧
      Spelled escapes text' body' ∧ (∀ char ∈ body'.head?, char = ' ') ∧
      doubleRun fuel (body ++ '"' :: rest) = some (run, body' ++ '"' :: rest) := by
  induction spelled generalizing fuel with
  | nil =>
    obtain ⟨fuel, rfl⟩ := Nat.exists_eq_add_of_lt enough
    exact ⟨[], [], [], [], rfl, rfl, .nil, by simp, rfl⟩
  | plain char text body stands more ih =>
    cases fuel with
    | zero => exact absurd enough (Nat.not_lt_zero _)
    | succ fuel =>
      by_cases blank : char = ' '
      · refine ⟨[], [], char :: text, char :: body, rfl, rfl, .plain char text body stands more,
          by simpa using blank, ?_⟩
        simp [doubleRun, blank, isBlank]
      · obtain ⟨run, front, text', body', rfl, rfl, later, stop, read⟩ :=
          ih fuel (Nat.lt_of_succ_lt_succ enough)
        obtain ⟨quote, backslash, space, line⟩ := of_isPlain char stands blank
        refine ⟨char :: run, char :: front, text', body', rfl, rfl, later, stop, ?_⟩
        rw [List.append_assoc] at read
        simp [doubleRun, quote, backslash, space, line, read]
  | escape char text tail body behind more ih =>
    cases fuel with
    | zero => exact absurd enough (Nat.not_lt_zero _)
    | succ fuel =>
      simp only [List.length_cons, List.length_append] at enough
      obtain ⟨run, front, text', body', rfl, rfl, later, stop, read⟩ := ih fuel (by omega)
      refine ⟨char :: run, '\\' :: (tail ++ front), text', body', rfl, by simp, later, stop, ?_⟩
      have letter := head_escape char tail (front ++ body' ++ '"' :: rest) behind
      have escape := Text.readEscape_escape escapes char tail (front ++ body' ++ '"' :: rest) behind
      have blank : isBlank '\\' = false := rfl
      have line : isBreak '\\' = false := rfl
      simp only [List.cons_append, List.append_assoc] at read letter escape ⊢
      rw [doubleRun, blank, line, letter, escape]
      simp only [bind, Option.bind, read]
      rfl

theorem spelled_blanks (text body : List Char) (spelled : Spelled escapes text body) :
    ∃ count text' body', text = List.replicate count ' ' ++ text' ∧
      body = List.replicate count ' ' ++ body' ∧ Spelled escapes text' body' ∧
      body'.head? ≠ some ' ' := by
  induction spelled with
  | nil => exact ⟨0, [], [], rfl, rfl, .nil, by simp⟩
  | plain char text body stands more ih =>
    by_cases blank : char = ' '
    · obtain ⟨count, text', body', rfl, rfl, later, apart⟩ := ih
      exact ⟨count + 1, text', body', by rw [blank]; rfl, by rw [blank]; rfl, later, apart⟩
    · exact ⟨0, char :: text, char :: body, rfl, rfl, .plain char text body stands more,
        by simpa using blank⟩
  | escape char text tail body behind more =>
    exact ⟨0, char :: text, '\\' :: (tail ++ body), rfl, rfl,
      .escape char text tail body behind more, by simp⟩

theorem endsGap_spelled (text body rest : List Char) (spelled : Spelled escapes text body)
    (apart : body.head? ≠ some ' ') : EndsGap (body ++ '"' :: rest) := by
  cases spelled with
  | nil => exact endsGap_cons '"' rest rfl rfl
  | plain char text body stands =>
    have other : char ≠ ' ' := fun same => apart (congrArg some same)
    obtain ⟨_, _, blank, line⟩ := of_isPlain char stands other
    exact endsGap_cons char _ blank line
  | escape => exact endsGap_cons '\\' _ rfl rfl

theorem isAtMarker_of_column (cursor : Cursor) (behind : cursor.column ≠ 0) :
    cursor.isAtMarker = false := by
  simp [Cursor.isAtMarker, Cursor.isAtMark, behind]

/-- The blanks behind a stretch are a gap, and what follows them begins with none. -/
theorem run_readGap_spelled (cursor : Cursor) (text body rest : List Char)
    (spelled : Spelled escapes text (' ' :: body))
    (stands : cursor.rest = ' ' :: (body ++ '"' :: rest)) (fuel : Nat)
    (enough : body.length < fuel) :
    ∃ count text' body', 0 < count ∧ text = List.replicate count ' ' ++ text' ∧
      Spelled escapes text' body' ∧ body.length + 1 = count + body'.length ∧
      (cursor.advance count).rest = body' ++ '"' :: rest ∧
      (readGap 0 fuel ⟨[], []⟩).run cursor =
        some (⟨List.replicate count ' ', []⟩, cursor.advance count) := by
  obtain ⟨count, text', body', whole, same, later, apart⟩ := spelled_blanks _ _ spelled
  have given : 0 < count := by
    apply Nat.pos_of_ne_zero
    rintro rfl
    rw [List.replicate_zero, List.nil_append] at same
    exact apart (same ▸ rfl)
  have size : body.length + 1 = count + body'.length := by
    simpa using congrArg List.length same
  have blanks : cursor.rest = List.replicate count ' ' ++ (body' ++ '"' :: rest) := by
    rw [stands, ← List.cons_append, same, List.append_assoc]
  have past : (cursor.advance count).rest = body' ++ '"' :: rest := by
    rw [Cursor.rest_advance, blanks, List.drop_left' List.length_replicate]
  exact ⟨count, text', body', given, whole, later, size, past,
    run_readGap_blanks 0 fuel count [] _ blanks (endsGap_spelled _ _ rest later apart) (by omega)⟩

theorem run_quotedMore (fuel : Nat) (cursor : Cursor) (front text body rest : List Char)
    (spelled : Spelled escapes text body) (stands : cursor.rest = body ++ '"' :: rest)
    (behind : cursor.column ≠ 0) (enough : body.length < fuel) :
    (quotedMore '"' fuel front).run cursor =
      some (front ++ text, cursor.advance (body.length + 1)) := by
  induction fuel generalizing cursor front text body with
  | zero => exact absurd enough (Nat.not_lt_zero _)
  | succ fuel ih =>
    have marker := isAtMarker_of_column cursor behind
    have within : body.length < cursor.rest.length + 1 := by
      rw [stands, List.length_append]
      omega
    obtain ⟨run, stretch, text', body', rfl, rfl, later, stop, read⟩ :=
      doubleRun_spelled text body rest spelled _ within
    rw [List.append_assoc] at stands read
    rw [← stands] at read
    have goes : cursor.advanceTo (body' ++ '"' :: rest) = cursor.advance stretch.length :=
      Cursor.advanceTo_append stands
    have next : (cursor.advance stretch.length).rest = body' ++ '"' :: rest :=
      Cursor.rest_advance_append stands
    cases body' with
    | nil =>
      cases later
      rw [List.nil_append] at read goes
      simp [quotedMore, marker, quotedRun, read, goes, Cursor.advance_advance]
    | cons char more =>
      obtain rfl : char = ' ' := stop char rfl
      rw [List.cons_append] at read goes next
      obtain ⟨count, text'', body'', given, rfl, further, size, past, gap⟩ :=
        run_readGap_spelled _ text' more rest later next (more.length + (rest.length + 1) + 1)
          (by omega)
      simp only [List.length_append, List.length_cons] at enough
      have last := ih ((cursor.advance stretch.length).advance count)
        (front ++ run ++ List.replicate count ' ') text'' body'' further past
        (by simp [behind]) (by omega)
      have whole : stretch.length + count + (body''.length + 1) =
          stretch.length + (more.length + 1) + 1 := by
        omega
      rw [Cursor.advance_advance, Cursor.advance_advance, whole] at last
      rw [Cursor.advance_advance] at gap
      simp only [List.append_assoc] at last
      simp [quotedMore, marker, quotedRun, read, goes, gap, Gap.text, last]

theorem run_readQuoted (quote : String → List Char) (quotes : Text.Quotes escapes quote)
    (text : String) (cursor : Cursor) (rest : List Char)
    (stands : cursor.rest = quote text ++ rest) :
    (readQuoted '"').run cursor =
      some (text.toList, (cursor.advance (quote text).length).allow false) := by
  obtain ⟨body, spelled, written⟩ := quotes text
  have next : (cursor.advance 1).rest = body ++ '"' :: rest := by
    simp [Cursor.rest_advance, stands, written]
  have enough : body.length < (cursor.advance 1).rest.length + 1 := by
    rw [next, List.length_append]
    omega
  have read := run_quotedMore _ (cursor.advance 1) [] text.toList body rest spelled next (by simp)
    enough
  have whole : 1 + (body.length + 1) = (quote text).length := by
    simp [written]
    omega
  rw [Cursor.advance_advance, whole] at read
  rw [List.nil_append] at read
  simp [readQuoted, read]

end Quotes

end PatternLint.Yaml
