import PatternLint.Proofs.Config.Content
import PatternLint.Proofs.Text.Quoting
import PatternLint.Proofs.Text.Run
import PatternLint.Toml.Reader

namespace PatternLint.Toml

open Config (Content)

section Texts

theorem not_isControl_of_isPlain (char : Char) (stands : Text.isPlain char = true) :
    char ≠ '"' ∧ char ≠ '\\' ∧ isControl char = false := by
  simp only [Text.isPlain, Bool.and_eq_true, decide_eq_true_eq, bne_iff_ne] at stands
  obtain ⟨⟨⟨low, high⟩, quote⟩, backslash⟩ := stands
  refine ⟨quote, backslash, ?_⟩
  simp [isControl]
  omega

theorem readBasic_spelled (text body rest : List Char) (spelled : Text.Spelled escapes text body)
    (fuel : Nat) (enough : body.length < fuel) :
    readBasic fuel (body ++ '"' :: rest) = some (text, rest) := by
  induction spelled generalizing fuel with
  | nil =>
    obtain ⟨fuel, rfl⟩ := Nat.exists_eq_add_of_lt enough
    rfl
  | plain char text body stands more ih =>
    obtain ⟨quote, backslash, visible⟩ := not_isControl_of_isPlain char stands
    cases fuel with
    | zero => exact absurd enough (Nat.not_lt_zero _)
    | succ fuel =>
      rw [List.cons_append, readBasic, if_neg quote, if_neg backslash, visible,
        ih fuel (Nat.lt_of_succ_lt_succ enough)]
      rfl
  | escape char text tail body behind more ih =>
    cases fuel with
    | zero => exact absurd enough (Nat.not_lt_zero _)
    | succ fuel =>
      simp only [List.length_cons, List.length_append] at enough
      have further := ih fuel (by omega)
      rw [List.cons_append, readBasic, if_neg (by decide), if_pos rfl, List.append_assoc,
        Text.readEscape_escape escapes char tail _ behind]
      simp only [bind, Option.bind, further]
      rfl

theorem head_spelled (text body : List Char) (spelled : Text.Spelled escapes text body) :
    body = [] ∨ ∃ char rest, body = char :: rest ∧ char ≠ '"' := by
  cases spelled with
  | nil => exact .inl rfl
  | plain char text body stands =>
    exact .inr ⟨char, body, rfl, (not_isControl_of_isPlain char stands).1⟩
  | escape => exact .inr ⟨_, _, rfl, by decide⟩

variable (quote : String → List Char) (quotes : Text.Quotes escapes quote)

include quotes

/-- No third quote follows an empty text. -/
theorem readText_quote (text : String) (rest : List Char) (apart : rest.head? ≠ some '"') :
    readText (quote text ++ rest) = some (text.toList, rest) := by
  obtain ⟨body, spelled, written⟩ := quotes text
  have line : readText ('"' :: (body ++ '"' :: rest)) =
      readLineText ('"' :: (body ++ '"' :: rest)) := by
    rcases head_spelled text.toList body spelled with rfl | ⟨char, more, rfl, other⟩
    · cases rest with
      | nil => rfl
      | cons next after =>
        have other : next ≠ '"' := fun same => apart (congrArg some same)
        simp [readText, other]
    · simp [readText, other]
  have whole : quote text ++ rest = '"' :: (body ++ '"' :: rest) := by
    simp [written]
  rw [whole, line]
  apply readBasic_spelled text.toList body rest spelled
  simp only [List.length_cons, List.length_append]
  omega

theorem dropSpace_quote (text : String) (rest : List Char) :
    dropSpace false (quote text ++ rest) = some (quote text ++ rest) := by
  obtain ⟨more, begins⟩ := quotes.begins text rest
  rw [begins]
  rfl

theorem readValue_quote (fuel depth : Nat) (text : String) (rest : List Char)
    (apart : rest.head? ≠ some '"') :
    readValue (fuel + 1) depth (quote text ++ rest) = some (.text text, rest) := by
  have read := readText_quote quote quotes text rest apart
  obtain ⟨more, begins⟩ := quotes.begins text rest
  rw [begins] at read ⊢
  rw [readValue]
  simp only [read, Option.map_some, String.ofList_toList]

end Texts

section Rows

section Steps

variable {fuel depth : Nat} {text chars after rest finish : List Char} {item : Value}
  {items : List Value} (begins : dropSpace false text = some ('"' :: chars))
  (read : readValue fuel depth ('"' :: chars) = some (item, after))

include begins read

theorem readItems_last (ends : dropSpace false after = some (']' :: rest)) :
    readItems (fuel + 1) depth text = some ([item], rest) := by
  rw [readItems, begins]
  simp [read, ends]

theorem readItems_more (goesOn : dropSpace false after = some (',' :: rest))
    (further : readItems fuel depth rest = some (items, finish)) :
    readItems (fuel + 1) depth text = some (item :: items, finish) := by
  rw [readItems, begins]
  simp [read, goesOn, further]

end Steps

variable (quote : String → List Char) (quotes : Text.Quotes escapes quote)

include quotes

theorem readItems_row (value : String) (values : List String) (rest : List Char) (fuel depth : Nat)
    (enough : values.length + 1 < fuel) (text : List Char)
    (begins : dropSpace false text =
      some (quote value ++ (Config.rowTail quote values ++ rest))) :
    readItems fuel depth text = some ((value :: values).map .text, rest) := by
  induction values generalizing value fuel text with
  | nil =>
    obtain ⟨fuel, rfl⟩ : ∃ more, fuel = more + 2 := Nat.exists_eq_add_of_le' enough
    have first := readValue_quote quote quotes fuel depth value (']' :: rest) (by simp)
    obtain ⟨more, quoted⟩ := quotes.begins value (']' :: rest)
    rw [Config.rowTail, List.singleton_append, quoted] at begins
    rw [quoted] at first
    exact readItems_last begins first rfl
  | cons next values ih =>
    simp only [List.length_cons] at enough
    obtain ⟨fuel, rfl⟩ : ∃ more, fuel = more + 2 := Nat.exists_eq_add_of_le' (by omega)
    have first := readValue_quote quote quotes fuel depth value
      (Config.rowTail quote (next :: values) ++ rest) (by simp [Config.rowTail])
    have further := ih next (fuel + 1) (by omega)
      (' ' :: (quote next ++ (Config.rowTail quote values ++ rest)))
      (dropSpace_quote quote quotes next _)
    have goesOn : dropSpace false (Config.rowTail quote (next :: values) ++ rest) =
        some (',' :: ' ' :: (quote next ++ (Config.rowTail quote values ++ rest))) := by
      simp [Config.rowTail, dropSpace, isBlank]
    obtain ⟨more, quoted⟩ := quotes.begins value (Config.rowTail quote (next :: values) ++ rest)
    rw [quoted] at begins first
    exact readItems_more begins first goesOn further

end Rows

section Scalars

theorem digits?_of_digits (digits : List Char) (given : digits ≠ [])
    (all : ∀ char ∈ digits, char.isDigit = true) : digits? Char.isDigit digits = some digits := by
  induction digits with
  | nil => exact absurd rfl given
  | cons char rest ih =>
    have here := all char List.mem_cons_self
    cases rest with
    | nil => simp [digits?, here]
    | cons next further =>
      have later := ih (List.cons_ne_nil _ _) fun other member =>
        all other (List.mem_cons_of_mem _ member)
      have other : next ≠ '_' := by
        rintro rfl
        exact absurd (all '_' (by simp)) (by decide)
      simp [digits?, here, later, other]

/-- No zero stands in front of a number but the number zero itself. -/
theorem decimal?_toDigits (count : Nat) :
    decimal? (Nat.toDigits 10 count) = some (Nat.toDigits 10 count) := by
  have read := digits?_of_digits _ Nat.toDigits_ne_nil (Text.isDigit_of_mem_decimal count)
  have idle : ¬ ((Nat.toDigits 10 count).head? = some '0' ∧
      (Nat.toDigits 10 count).length ≠ 1) := by
    rintro ⟨zero, long⟩
    rcases Nat.eq_zero_or_pos count with rfl | positive
    · exact long rfl
    · exact Text.head?_toDigits_ne_zero count positive zero
  simp only [decimal?, read, bind, Option.bind, if_neg idle]

theorem isKept_of_small (count : Nat) (small : count < 2 ^ 63) : isKept (count : Int) = true := by
  rw [isKept, Bool.and_eq_true, decide_eq_true_eq, decide_eq_true_eq]
  constructor
  · omega
  · omega

theorem sign_of_digits (digits : List Char) (all : ∀ char ∈ digits, char.isDigit = true) :
    sign digits = (false, digits) := by
  unfold sign
  split
  · exact absurd (all '-' List.mem_cons_self) (by decide)
  · exact absurd (all '+' List.mem_cons_self) (by decide)
  · rfl

theorem integer?_toDigits (count : Nat) (small : count < 2 ^ 63) :
    integer? (Nat.toDigits 10 count) = some (count : Int) := by
  have number := Text.numberOf_toDigits 10 (by decide) (by decide) count
  -- The bounds of `isKept` are too large to be computed with; they stay behind this fact.
  have keep (value : Int) (given : isKept value = true) :
      ((pure (if false = true then -value else value) : Option Int) >>= fun value =>
        if isKept value = true then some value else none) = some value :=
    if_pos given
  rw [integer?]
  · rw [sign_of_digits _ (Text.isDigit_of_mem_decimal count)]
    dsimp only
    rw [decimal?_toDigits, Option.bind_eq_bind, Option.bind_some, number]
    exact keep _ (isKept_of_small count small)
  · intro letter rest same
    exact Text.toDigits_ne_zero_cons count letter rest same

theorem scalar?_toDigits (count : Nat) (small : count < 2 ^ 63) :
    scalar? (Nat.toDigits 10 count) = some (.integer count) := by
  rw [scalar?, if_neg (Text.toDigits_ne count _ rfl), if_neg (Text.toDigits_ne count _ rfl),
    integer?_toDigits count small]

theorem readScalar_run (word rest : List Char) (value : Value)
    (inside : ∀ char ∈ word, isScalarChar char = true) (stop : rest.head? = some '\n')
    (read : scalar? word = some value) : readScalar (word ++ rest) = some (value, rest) := by
  have ends : ∀ char ∈ rest.head?, isScalarChar char = false := by
    intro char next
    rw [stop] at next
    cases next
    rfl
  rw [readScalar]
  simp only [Text.takeWhile_run isScalarChar word rest inside ends,
    Text.dropWhile_run isScalarChar word rest inside ends, read, Option.map_some]
  split
  · cases stop
  · rfl

theorem readValue_run (fuel depth : Nat) (word rest : List Char) (value : Value) (given : word ≠ [])
    (inside : ∀ char ∈ word, isScalarChar char = true) (stop : rest.head? = some '\n')
    (read : scalar? word = some value) :
    readValue (fuel + 1) depth (word ++ rest) = some (value, rest) := by
  have scalar := readScalar_run word rest value inside stop read
  obtain ⟨first, more, rfl⟩ := List.exists_cons_of_ne_nil given
  have begins := inside first List.mem_cons_self
  rw [List.cons_append] at scalar ⊢
  rw [readValue, scalar]
  all_goals
    intro after same
    exact Text.ne_of_kinds isScalarChar begins (by decide) (List.cons.inj same).1

end Scalars

def valueOf : Content → Value
  | .text value => .text value
  | .texts values => .list (values.map .text)
  | .flag value => .flag value
  | .count value => .integer value

theorem isScalarChar_of_isDigit (char : Char) (digit : char.isDigit = true) :
    isScalarChar char = true := by
  simp [isScalarChar, Char.isAlphanum, digit]

theorem readValue_row (fuel depth : Nat) (shallow : depth < nestingLimit) (text rest : List Char)
    (items : List Value) (read : readItems fuel (depth + 1) text = some (items, rest)) :
    readValue (fuel + 1) depth ('[' :: text) = some (.list items, rest) := by
  simp [readValue, shallow, read]

theorem readValue_written (quote : String → List Char) (quotes : Text.Quotes escapes quote)
    (content : Content) (fit : content.Fits) (rest : List Char) (stop : rest.head? = some '\n')
    (fuel : Nat) (enough : (content.written quote).length < fuel) :
    readValue fuel 0 (content.written quote ++ rest) = some (valueOf content, rest) := by
  obtain ⟨fuel, rfl⟩ := Nat.exists_eq_add_of_lt (Nat.lt_of_le_of_lt (Nat.zero_le _) enough)
  rw [Nat.zero_add] at enough ⊢
  cases content with
  | text value => exact readValue_quote quote quotes fuel 0 value rest (by rw [stop]; decide)
  | texts values =>
    cases values with
    | nil =>
      rw [Config.written_texts_nil, List.length_cons] at enough
      obtain ⟨fuel, rfl⟩ : ∃ more, fuel = more + 1 := Nat.exists_eq_add_of_le' (by omega)
      exact readValue_row (fuel + 1) 0 (by decide) (']' :: rest) rest [] rfl
    | cons value values =>
      have size := Config.length_rowTail quote values
      rw [Config.written_texts_cons] at enough ⊢
      simp only [List.length_cons, List.length_append] at enough
      have row := readItems_row quote quotes value values rest fuel 1 (by omega) _
        (dropSpace_quote quote quotes value _)
      rw [List.cons_append, List.append_assoc]
      exact readValue_row fuel 0 (by decide) _ rest _ row
  | flag value =>
    have given : (Content.flag value).written quote ≠ [] := by
      cases value <;> exact List.cons_ne_nil _ _
    have inside : ((Content.flag value).written quote).all isScalarChar = true := by
      cases value <;> rfl
    have read : scalar? ((Content.flag value).written quote) = some (.flag value) := by
      cases value <;> rfl
    exact readValue_run fuel 0 _ rest _ given (List.all_eq_true.mp inside) stop read
  | count value =>
    have inside : ∀ char ∈ Nat.toDigits 10 value, isScalarChar char = true := fun char member =>
      isScalarChar_of_isDigit char (Text.isDigit_of_mem_decimal value char member)
    rw [Config.written_count]
    exact readValue_run fuel 0 _ rest _ Nat.toDigits_ne_nil inside stop (scalar?_toDigits value fit)

end PatternLint.Toml
