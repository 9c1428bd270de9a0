import Mathlib.Data.List.Forall2
import PatternLint.Proofs.Json.Unambiguous
import PatternLint.Proofs.Text.Number
import PatternLint.Report.Basic

namespace PatternLint.Report

open JsonGrammar (AllDigits Blanks Chars Denotes Letter Number Phrase Reads Unsigned Value Whole)

namespace Json

mutual

def denoted : Json → Value
  | .text value => .text value
  | .number value => .number ⟨false, value, 0⟩
  | .list items => .array (denotedItems items)
  | .object members => .object (denotedMembers members)

def denotedItems : List Json → List Value
  | [] => []
  | item :: items => denoted item :: denotedItems items

def denotedMembers : List (String × Json) → List (String × Value)
  | [] => []
  | (key, value) :: members => (key, denoted value) :: denotedMembers members

end

theorem denotedItems_eq_map (items : List Json) : denotedItems items = items.map denoted := by
  induction items with
  | nil => rfl
  | cons item items ih => rw [denotedItems, ih, List.map_cons]

section Texts

theorem unit?_hexDigit (value : Nat) (small : value < 0x20) :
    JsonGrammar.unit? '0' '0' (hexDigit (value / 16)) (hexDigit (value % 16)) = some value := by
  have all : ∀ value < 0x20, JsonGrammar.unit? '0' '0' (hexDigit (value / 16))
      (hexDigit (value % 16)) = some value := by
    decide
  exact all value small

theorem letter_escapeChar (char : Char) (rest : List Char) :
    Letter (escapeChar char ++ rest) char rest := by
  unfold escapeChar
  split
  case h_8 quote backslash _ _ _ _ _ =>
    split
    · rename_i small
      exact .unit _ _ _ _ char rest (unit?_hexDigit char.toNat small)
    · rename_i large
      exact .plain char rest quote backslash (Nat.le_of_not_lt large)
  all_goals exact .escape _ _ rest rfl

theorem chars_escaped (text rest : List Char) :
    Chars (text.flatMap escapeChar ++ '"' :: rest) text rest := by
  induction text with
  | nil => exact .close rest
  | cons char text ih =>
    rw [List.flatMap_cons, List.append_assoc]
    exact .letter _ _ text rest char (letter_escapeChar char _) ih

theorem reads_quote (text : String) (rest : List Char) :
    Reads (quote text ++ rest) (.value (.text text)) rest := by
  have reads := Reads.text _ text.toList rest (chars_escaped text.toList rest)
  rw [String.ofList_toList] at reads
  simpa [quote] using reads

end Texts

section Counts

theorem whole_toDigits (value : Nat) : Whole (Nat.toDigits 10 value) := by
  have all : AllDigits (Nat.toDigits 10 value) := fun char member =>
    Nat.isDigit_of_mem_toDigits (by decide) (by decide) member
  rcases Nat.eq_zero_or_pos value with zero | positive
  · subst zero
    exact .zero
  · have head := Text.head?_toDigits_ne_zero value positive
    cases parts : Nat.toDigits 10 value with
    | nil => exact absurd parts Nat.toDigits_ne_nil
    | cons first rest =>
      rw [parts] at all head
      exact .digits first rest (by simpa using head) all

theorem number_toString (value : Nat) :
    Number (toString value).toList ⟨false, value, 0⟩ := by
  have unsigned := Unsigned.parts _ [] [] [] 0 (whole_toDigits value) .none .none
  simp only [List.append_nil, JsonGrammar.natural, Nat.ofDigitChars_ten_toDigits] at unsigned
  rw [Nat.toString_eq_ofList_toDigits, String.toList_ofList]
  exact .positive _ value 0 unsigned

end Counts

theorem blanks_indent (depth : Nat) (rest : List Char) : Blanks (indent depth ++ rest) rest := by
  refine ⟨indent depth, rfl, ?_⟩
  intro char member
  rcases List.mem_cons.mp member with same | member
  · rw [same]
    decide
  · rw [(List.mem_replicate.mp member).2]
    decide

theorem enclose_append (depth : Nat) (left right : Char) (parts : List (List Char))
    (rest : List Char) (given : parts ≠ []) :
    enclose depth left right parts ++ rest =
      left :: ([','].intercalate (parts.map (indent (depth + 1) ++ ·)) ++
        (indent depth ++ right :: rest)) := by
  cases parts with
  | nil => exact absurd rfl given
  | cons part parts => simp [enclose]

theorem reads_intercalate {Part : Type} (one : Part → Phrase) (all : List Part → Phrase)
    (bracket : Char)
    (last : ∀ text finish rest part, Reads text (one part) finish →
      Blanks finish (bracket :: rest) → Reads text (all [part]) rest)
    (more : ∀ text finish after rest part parts, Reads text (one part) finish →
      Blanks finish (',' :: after) → Reads after (all parts) rest →
        Reads text (all (part :: parts)) rest)
    (pieces : List (List Char)) (parts : List Part) (given : parts ≠ [])
    (reads : List.Forall₂ (fun piece part => ∀ rest, Reads (piece ++ rest) (one part) rest)
      pieces parts)
    (tail rest : List Char) (closes : Blanks tail (bracket :: rest)) :
    Reads ([','].intercalate pieces ++ tail) (all parts) rest := by
  induction reads with
  | nil => exact absurd rfl given
  | cons readsOne later ih =>
    rename_i piece part pieces parts
    cases later with
    | nil =>
      rw [List.intercalate_singleton]
      exact last _ tail rest part (readsOne tail) closes
    | cons readsNext others =>
      rw [List.intercalate_cons_cons, List.append_assoc, List.append_assoc]
      exact more _ _ _ rest part _ (readsOne _) ⟨[], rfl, nofun⟩ (ih (by simp))

mutual

theorem reads_write (depth : Nat) (json : Json) (rest : List Char) :
    Reads (write depth json ++ rest) (.value (denoted json)) rest := by
  cases json with
  | text value => exact reads_quote value rest
  | number value => exact .number _ _ rest _ rfl (number_toString value)
  | list items =>
    have pieces := reads_writeItems (depth + 1) items
    cases items with
    | nil => exact .emptyArray _ rest ⟨[], rfl, nofun⟩
    | cons item items =>
      have inside := reads_intercalate .item .items ']' Reads.lastItem Reads.moreItems _ _
        (by simp [denotedItems]) (List.forall₂_map_left_iff.mpr pieces) _ rest
        (blanks_indent depth _)
      rw [write, enclose_append _ _ _ _ _ (by simp [writeItems])]
      exact .array _ rest _ inside
  | object members =>
    have pieces := reads_writeMembers (depth + 1) members
    cases members with
    | nil => exact .emptyObject _ rest ⟨[], rfl, nofun⟩
    | cons member members =>
      have inside := reads_intercalate .member .members '\x7d' Reads.lastMember
        Reads.moreMembers _ _ (by simp [denotedMembers]) (List.forall₂_map_left_iff.mpr pieces) _
        rest (blanks_indent depth _)
      rw [write, enclose_append _ _ _ _ _ (by simp [writeMembers])]
      exact .object _ rest _ inside

theorem reads_writeItems (depth : Nat) (items : List Json) :
    List.Forall₂ (fun piece item => ∀ rest, Reads (indent depth ++ piece ++ rest) (.item item) rest)
      (writeItems depth items) (denotedItems items) := by
  match items with
  | [] => exact .nil
  | item :: items =>
    refine .cons ?_ (reads_writeItems depth items)
    intro rest
    rw [List.append_assoc]
    exact .item _ _ rest _ (blanks_indent depth _) (reads_write depth item rest)

theorem reads_writeMembers (depth : Nat) (members : List (String × Json)) :
    List.Forall₂
      (fun piece member => ∀ rest, Reads (indent depth ++ piece ++ rest) (.member member) rest)
      (writeMembers depth members) (denotedMembers members) := by
  match members with
  | [] => exact .nil
  | (key, value) :: members =>
    refine .cons ?_ (reads_writeMembers depth members)
    intro rest
    have reads := reads_write depth value rest
    have named := chars_escaped key.toList (':' :: ' ' :: (write depth value ++ rest))
    have member := Reads.member _ _ _ _ _ _ rest _ (blanks_indent depth _) named ⟨[], rfl, nofun⟩
      ⟨[' '], rfl, by simp [JsonGrammar.isBlank]⟩ reads
    simpa [quote] using member

end

/-- What is rendered is a document with the value that was meant, also with blanks behind it. -/
theorem denotes_render (json : Json) (blanks : String)
    (all : ∀ char ∈ blanks.toList, JsonGrammar.isBlank char = true) :
    Denotes (json.render ++ blanks) json.denoted := by
  refine ⟨write 0 json ++ blanks.toList, blanks.toList, ⟨[], ?_, nofun⟩, reads_write 0 json _,
    blanks.toList, (List.append_nil _).symm, all⟩
  rw [render, String.toList_append, String.toList_ofList, List.nil_append]

end Json

open Json (denoted)

def countValue (count : Nat) : Value := .number ⟨false, count, 0⟩

def violationValue (violation : Violation) : Value :=
  .object [("path", .text violation.path), ("line", countValue violation.line),
    ("column", countValue violation.column), ("matched", .text violation.matched),
    ("message", .text violation.message)]

def skippedValue (skipped : Skipped) : Value :=
  .object [("path", .text skipped.path), ("reason", .text skipped.reason)]

def resultValue (result : ScanResult) : Value :=
  .object [("violations", .array (result.violations.map violationValue)),
    ("skipped", .array (result.skipped.map skippedValue)),
    ("summary", .object [("violations", countValue result.violations.length),
      ("files", countValue result.files), ("skipped", countValue result.skipped.length)])]

theorem denoted_resultJson (result : ScanResult) :
    (resultJson result).denoted = resultValue result := by
  simp only [resultJson, Json.denoted, Json.denotedMembers, Json.denotedItems_eq_map, List.map_map,
    resultValue]
  rfl

/-- A result without the numbers of the rules, which are not reported. -/
def withoutRules (result : ScanResult) : ScanResult :=
  { result with violations := result.violations.map fun violation => { violation with rule := 0 } }

theorem map_eq_of_map_eq {Item Shown Kept : Type} (shows : Item → Shown) (keeps : Item → Kept)
    (tells : ∀ item other, shows item = shows other → keeps item = keeps other)
    (list others : List Item) (same : list.map shows = others.map shows) :
    list.map keeps = others.map keeps := by
  induction list generalizing others with
  | nil =>
    rw [List.map_nil, eq_comm, List.map_eq_nil_iff] at same
    rw [same]
  | cons item list ih =>
    cases others with
    | nil => cases same
    | cons other others =>
      obtain ⟨head, tail⟩ := List.cons.inj same
      rw [List.map_cons, List.map_cons, tells item other head, ih others tail]

theorem withoutRules_of_resultValue (result other : ScanResult)
    (same : resultValue other = resultValue result) : withoutRules other = withoutRules result := by
  simp only [resultValue, countValue, Value.object.injEq, List.cons.injEq, Prod.mk.injEq,
    Value.array.injEq, Value.number.injEq, JsonGrammar.Decimal.mk.injEq, true_and, and_true] at same
  obtain ⟨violations, skipped, _, files, _⟩ := same
  have violations := map_eq_of_map_eq violationValue
    (fun violation => { violation with rule := 0 }) (by
      intro violation violationOther told
      simpa [violationValue, countValue] using told) _ _ violations
  have skipped := map_eq_of_map_eq skippedValue id (by
    intro skipped skippedOther told
    cases skipped
    cases skippedOther
    simpa [skippedValue] using told) _ _ skipped
  rw [List.map_id, List.map_id] at skipped
  rw [withoutRules, withoutRules, violations, skipped, files]

/-- The report for programs is a document, and the only value it has is what the result tells. Two
results with one report differ in the numbers of their rules at most. -/
theorem report_lossless (result : ScanResult) :
    (∀ value, Denotes (resultJson result).render value ↔ value = resultValue result) ∧
      (∀ coloursOff value, Denotes (standardOutput .json coloursOff result) value ↔
        value = resultValue result) ∧
      ∀ other, (resultJson other).render = (resultJson result).render →
        withoutRules other = withoutRules result := by
  have written : ∀ result, Denotes (resultJson result).render (resultValue result) := by
    intro result
    have bare := (resultJson result).denotes_render "" nofun
    rwa [String.append_empty, denoted_resultJson] at bare
  have told : ∀ coloursOff,
      Denotes (standardOutput .json coloursOff result) (resultValue result) := by
    intro coloursOff
    rw [← denoted_resultJson]
    exact (resultJson result).denotes_render "\n" (by simp [JsonGrammar.isBlank])
  refine ⟨?_, ?_, ?_⟩
  · intro value
    constructor
    · intro holds
      exact JsonGrammar.denotes_unique _ _ _ holds (written result)
    · intro same
      exact same ▸ written result
  · intro coloursOff value
    constructor
    · intro holds
      exact JsonGrammar.denotes_unique _ _ _ holds (told coloursOff)
    · intro same
      exact same ▸ told coloursOff
  · intro other same
    have again := written other
    rw [same] at again
    exact withoutRules_of_resultValue result other
      (JsonGrammar.denotes_unique _ _ _ again (written result))

end PatternLint.Report
