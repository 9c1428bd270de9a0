import PatternLint.Proofs.Config.Content
import PatternLint.Proofs.Yaml.Text
import PatternLint.Yaml.Reader

namespace PatternLint.Yaml.Reader

open Config (Content)

def nodeOf : Content → Node
  | .text value => .scalar none .quoted value
  | .texts values => .list (values.map (.scalar none .quoted))
  | .flag value => .scalar none .plain (toString value)
  | .count value => .scalar none .plain (toString value)

section Properties

variable (cursor : Cursor)

theorem run_readProperties (brackets : Bool) (line fuel : Nat) (name : cursor.rest.head? ≠ some '&')
    (tag : cursor.rest.head? ≠ some '!') :
    (readProperties brackets line fuel {}).run cursor = some ({}, cursor) := by
  cases fuel with
  | zero => rfl
  | succ fuel =>
    rw [readProperties, StateT.run_bind, StateT.run_get, Option.pure_def, Option.bind_eq_bind,
      Option.bind_some]
    dsimp only
    split
    · rfl
    · split
      · exact absurd ‹_› name
      · exact absurd ‹_› tag
      · rfl

theorem run_settle_scalar (style : Style) (text : String) :
    (settle {} (.scalar none style text)).run cursor = some (.scalar none style text, cursor) := by
  have same : (Node.scalar none style text).tagged none = .scalar none style text := by
    unfold Node.tagged
    split <;> simp_all
  simp [settle, same]

theorem run_settle_list (items : List Node) :
    (settle {} (.list items)).run cursor = some (.list items, cursor) :=
  rfl

theorem run_settle_table (members : List (Node × Node)) :
    (settle {} (.table members)).run cursor = some (.table members, cursor) :=
  rfl

end Properties

section Words

variable (fuel floor : Nat) (cursor : Cursor)

theorem run_readContent_word (char : Char) (rest : List Char) (stands : cursor.rest = char :: rest)
    (inside : isWordChar char = true) (text : List Char) (finish : Cursor)
    (read : (readPlain false floor).run cursor = some (text, finish)) :
    (readContent (fuel + 1) false floor false).run cursor =
      some (.scalar none .plain (String.ofList text), finish) := by
  have other (mark : Char) (outside : isWordChar mark = false) : char ≠ mark :=
    Text.ne_of_kinds isWordChar inside outside
  have marker := Cursor.isAtMarker_eq_false cursor char rest stands (other _ rfl) (other _ rfl)
  have given : lacksContent false cursor = false := by
    simp [lacksContent, stands, other ':' rfl]
  have free : char ∉ indicators := by
    have outside : indicators.all (fun mark => !isWordChar mark) = true := rfl
    simp only [List.all_eq_true, Bool.not_eq_true'] at outside
    exact fun member => other char (outside char member) rfl
  obtain ⟨blank, line⟩ := not_isBlank_of_isVisible (isVisible_of_isWordChar inside)
  have starts : startsPlain false char rest = true := by
    simp [startsPlain, blank, line, free]
  rw [readContent]
  simp [marker, given, stands, starts, other '*' rfl, other '[' rfl, other '\x7b' rfl,
    other '"' rfl, other '\'' rfl, other '|' rfl, other '>' rfl, read]

theorem run_readContent_key (word rest : List Char) (given : word ≠ [])
    (inside : ∀ char ∈ word, isWordChar char = true) (stands : cursor.rest = word ++ ':' :: rest)
    (gap : atGap rest = true) :
    (readContent (fuel + 1) false floor false).run cursor =
      some (.scalar none .plain (String.ofList word),
        (cursor.advance word.length).allow false) := by
  have read := run_readPlain_key floor cursor word rest inside stands gap
  obtain ⟨char, more, rfl⟩ := List.exists_cons_of_ne_nil given
  exact run_readContent_word fuel floor cursor char _ stands (inside char List.mem_cons_self) _ _
    read

theorem run_readContent_line (word : List Char) (given : word ≠ [])
    (inside : ∀ char ∈ word, isWordChar char = true) (count : Nat) (text : List Char)
    (stands : cursor.rest = word ++ '\n' :: (List.replicate count ' ' ++ text))
    (begins : Begins text) (outside : count < floor) :
    (readContent (fuel + 1) false floor false).run cursor =
      some (.scalar none .plain (String.ofList word),
        ((cursor.advance word.length).allow false).afterLine count) := by
  have read := run_readPlain_line floor cursor word inside count text stands begins outside
  obtain ⟨char, more, rfl⟩ := List.exists_cons_of_ne_nil given
  exact run_readContent_word fuel floor cursor char _ stands (inside char List.mem_cons_self) _ _
    read

end Words

section Texts

variable (quote : String → List Char) (quotes : Text.Quotes escapes quote)

include quotes

theorem run_readContent_quote (fuel floor : Nat) (brackets : Bool) (cursor : Cursor) (text : String)
    (rest : List Char) (stands : cursor.rest = quote text ++ rest) :
    (readContent (fuel + 1) brackets floor false).run cursor =
      some (.scalar none .quoted text, (cursor.advance (quote text).length).allow false) := by
  have read := run_readQuoted quote quotes text cursor rest stands
  obtain ⟨more, begins⟩ := quotes.begins text rest
  rw [← stands] at begins
  have marker := Cursor.isAtMarker_eq_false cursor '"' _ begins (by decide) (by decide)
  have given : lacksContent brackets cursor = false := by
    cases brackets <;> simp [lacksContent, begins]
  rw [readContent]
  simp [marker, given, begins, read]

theorem run_readNode_quote (fuel floor : Nat) (cursor : Cursor) (text : String) (rest : List Char)
    (stands : cursor.rest = quote text ++ rest) :
    (readNode (fuel + 2) floor).run cursor =
      some (.scalar none .quoted text, (cursor.advance (quote text).length).allow false) := by
  have content := run_readContent_quote quote quotes fuel floor true cursor text rest stands
  obtain ⟨more, begins⟩ := quotes.begins text rest
  rw [← stands] at begins
  have skipped := run_skip_begins cursor true (by rw [begins]; exact begins_cons _ _ rfl)
  have properties := run_readProperties cursor true 0 3 (by simp [begins]) (by simp [begins])
  rw [readNode]
  simp [skipped, properties, Properties.isGiven, content, run_settle_scalar]

end Texts

section Rows

/-- What is done behind an item of a list in brackets. -/
def readItemsOn (fuel floor : Nat) (item : Node) : Reader (List Node) := do
  match (← get).rest.head? with
  | some ',' =>
    advance 1
    return item :: (← readItems fuel floor)
  | some ']' =>
    advance 1
    return [item]
  | _ => failure

/-- An item that begins with a quote is no key if no colon stands behind it. -/
theorem run_readItems_item (fuel floor blanks : Nat) (cursor reached : Cursor) (item : Node)
    (rest after : List Char) (mark : Char)
    (stands : cursor.rest = List.replicate blanks ' ' ++ '"' :: rest)
    (read : (readNode fuel floor).run (cursor.advance blanks) = some (item, reached))
    (behind : reached.rest = mark :: after) (visible : isVisible mark = true) (colon : mark ≠ ':') :
    (readItems (fuel + 1) floor).run cursor = (readItemsOn fuel floor item).run reached := by
  have first := run_skip_blanks cursor true blanks _ stands (begins_cons '"' rest rfl)
  have later := run_skip_begins reached true (by rw [behind]; exact begins_cons _ _ visible)
  have next : (cursor.advance blanks).rest = '"' :: rest := by
    rw [Cursor.rest_advance, stands, List.drop_left' List.length_replicate]
  have key : isKey true (cursor.advance blanks) reached = false := by
    simp [isKey, behind, colon]
  rw [readItems]
  simp [first, next, read, later, key]
  rfl

variable (quote : String → List Char) (quotes : Text.Quotes escapes quote)

include quotes

theorem run_readNode_blanks (fuel floor blanks : Nat) (cursor : Cursor) (value : String)
    (rest : List Char) (stands : cursor.rest = List.replicate blanks ' ' ++ (quote value ++ rest)) :
    ∃ body, cursor.rest = List.replicate blanks ' ' ++ '"' :: body ∧
      (readNode (fuel + 2) floor).run (cursor.advance blanks) =
        some (.scalar none .quoted value,
          (cursor.advance (blanks + (quote value).length)).allow false) ∧
      (cursor.advance (blanks + (quote value).length)).rest = rest := by
  have next : (cursor.advance blanks).rest = quote value ++ rest := by
    rw [Cursor.rest_advance, stands, List.drop_left' List.length_replicate]
  have read := run_readNode_quote quote quotes fuel floor _ value _ next
  have behind := Cursor.rest_advance_append next
  obtain ⟨more, begins⟩ := quotes.begins value rest
  rw [Cursor.advance_advance] at read behind
  exact ⟨more, by rw [stands, begins], read, behind⟩

theorem run_readItems_row (value : String) (values : List String) (rest : List Char)
    (fuel floor blanks : Nat) (cursor : Cursor) (enough : values.length + 2 < fuel)
    (stands : cursor.rest = List.replicate blanks ' ' ++
      (quote value ++ (Config.rowTail quote values ++ rest))) :
    (readItems fuel floor).run cursor =
      some ((value :: values).map (.scalar none .quoted),
        (cursor.advance (blanks + (quote value).length +
          (Config.rowTail quote values).length)).allow false) := by
  induction values generalizing value fuel blanks cursor with
  | nil =>
    obtain ⟨fuel, rfl⟩ : ∃ more, fuel = more + 3 := Nat.exists_eq_add_of_le' enough
    obtain ⟨body, begins, read, behind⟩ :=
      run_readNode_blanks quote quotes fuel floor blanks cursor value _ stands
    have item := run_readItems_item (fuel + 2) floor blanks cursor _ _ body rest ']' begins read
      behind rfl (by decide)
    rw [Config.rowTail, List.singleton_append] at behind
    simp [item, readItemsOn, behind, Config.rowTail, Cursor.advance_advance]
  | cons next values ih =>
    rw [List.length_cons] at enough
    obtain ⟨fuel, rfl⟩ : ∃ more, fuel = more + 3 := Nat.exists_eq_add_of_le' (by omega)
    obtain ⟨body, begins, read, behind⟩ :=
      run_readNode_blanks quote quotes fuel floor blanks cursor value _ stands
    have item := run_readItems_item (fuel + 2) floor blanks cursor _ _ body _ ',' begins read
      behind rfl (by decide)
    have after : ((cursor.advance (blanks + (quote value).length)).advance 1).rest =
        List.replicate 1 ' ' ++ (quote next ++ (Config.rowTail quote values ++ rest)) := by
      rw [Cursor.rest_advance, behind, Config.rowTail]
      simp
    have further := ih next (fuel + 2) 1
      (((cursor.advance (blanks + (quote value).length)).allow false).advance 1) (by omega) after
    simp only [Config.rowTail, List.cons_append] at behind
    simp only [Cursor.allow_advance, Cursor.advance_advance] at further
    have size : blanks + (quote value).length + 1 +
        (1 + (quote next).length + (Config.rowTail quote values).length) =
          blanks + (quote value).length +
            ((quote next).length + (Config.rowTail quote values).length + 1 + 1) := by
      omega
    simp [item, readItemsOn, behind, Config.rowTail, Cursor.advance_advance, further, size]

omit quotes in
theorem run_readContent_list (fuel floor : Nat) (cursor reached : Cursor) (rest : List Char)
    (items : List Node) (stands : cursor.rest = '[' :: rest)
    (read : (readItems fuel floor).run (cursor.advance 1) = some (items, reached)) :
    (readContent (fuel + 1) false floor false).run cursor =
      some (.list items, reached.allow false) := by
  have marker := Cursor.isAtMarker_eq_false cursor '[' _ stands (by decide) (by decide)
  have given : lacksContent false cursor = false := by
    simp [lacksContent, stands]
  rw [readContent]
  simp [marker, given, stands, read]

omit quotes in
theorem run_readItems_none (fuel floor : Nat) (cursor : Cursor) (rest : List Char)
    (stands : cursor.rest = ']' :: rest) :
    (readItems (fuel + 1) floor).run cursor = some ([], cursor.advance 1) := by
  have first := run_skip_begins cursor true (by rw [stands]; exact begins_cons _ _ rfl)
  rw [readItems]
  simp [first, stands]

theorem run_readContent_texts (values : List String) (fuel floor : Nat) (cursor : Cursor)
    (rest : List Char)
    (stands : cursor.rest = (Content.texts values).written quote ++ rest)
    (enough : ((Content.texts values).written quote).length < fuel) :
    (readContent (fuel + 1) false floor false).run cursor =
      some (nodeOf (.texts values),
        (cursor.advance ((Content.texts values).written quote).length).allow false) := by
  cases values with
  | nil =>
    have next : (cursor.advance 1).rest = ']' :: rest := by
      rw [Cursor.rest_advance, stands]
      rfl
    rw [Config.written_texts_nil, List.length_cons] at enough
    obtain ⟨fuel, rfl⟩ : ∃ more, fuel = more + 1 := Nat.exists_eq_add_of_le' (by omega)
    have row := run_readItems_none fuel floor (cursor.advance 1) rest next
    rw [Cursor.advance_advance] at row
    exact run_readContent_list (fuel + 1) floor cursor _ _ _ stands row
  | cons value values =>
    have size := Config.length_rowTail quote values
    have next : (cursor.advance 1).rest = List.replicate 0 ' ' ++
        (quote value ++ (Config.rowTail quote values ++ rest)) := by
      rw [Cursor.rest_advance, stands, Config.written_texts_cons]
      simp
    rw [Config.written_texts_cons] at enough stands ⊢
    simp only [List.length_cons, List.length_append] at enough
    have row := run_readItems_row quote quotes value values rest fuel floor 0 (cursor.advance 1)
      (by omega) next
    have whole : 1 + (0 + (quote value).length + (Config.rowTail quote values).length) =
        ('[' :: (quote value ++ Config.rowTail quote values)).length := by
      simp only [List.length_cons, List.length_append]
      omega
    rw [Cursor.advance_advance, whole] at row
    have list := run_readContent_list fuel floor cursor _ _ _ stands row
    rwa [Cursor.allow_allow] at list

/-- A value that a quote or a bracket ends leaves the line end for later, the others go over it. -/
theorem run_readContent_written (content : Content) (fuel floor count : Nat) (cursor : Cursor)
    (text : List Char)
    (stands : cursor.rest = content.written quote ++ '\n' :: (List.replicate count ' ' ++ text))
    (begins : Begins text) (outside : count < floor)
    (enough : (content.written quote).length < fuel) :
    ∃ finish, (readContent (fuel + 1) false floor false).run cursor =
        some (nodeOf content, finish) ∧
      (skip false).run finish =
        some ((),
          ((cursor.advance (content.written quote).length).allow false).afterLine count) := by
  have ends := run_skip_line ((cursor.advance (content.written quote).length).allow false) count
    text (Cursor.rest_advance_append stands) begins
  have arrived := Cursor.stands_afterLine
    ((cursor.advance (content.written quote).length).allow false) count text
    (Cursor.rest_advance_append stands)
  have stays := run_skip_begins _ false (arrived.rest ▸ begins)
  cases content with
  | text value =>
    exact ⟨_, run_readContent_quote quote quotes fuel floor false cursor value _ stands, ends⟩
  | texts values =>
    exact ⟨_, run_readContent_texts quote quotes values fuel floor cursor _ stands enough, ends⟩
  | flag value =>
    have inside : ((Content.flag value).written quote).all isWordChar = true := by
      cases value <;> rfl
    have read := run_readContent_line fuel floor cursor ((Content.flag value).written quote)
      (by cases value <;> exact List.cons_ne_nil _ _) (List.all_eq_true.mp inside) count text stands
      begins outside
    have word : String.ofList ((Content.flag value).written quote) = toString value := by
      cases value <;> rfl
    rw [word] at read
    exact ⟨_, read, stays⟩
  | count value =>
    have inside : ∀ char ∈ (Content.count value).written quote, isWordChar char = true := by
      intro char member
      rw [Config.written_count] at member
      exact isWordChar_of_isDigit char (Text.isDigit_of_mem_decimal value char member)
    have read := run_readContent_line fuel floor cursor ((Content.count value).written quote)
      (Config.written_count quote value ▸ Nat.toDigits_ne_nil) inside count text stands
      begins outside
    rw [Content.written, String.ofList_toList] at read
    exact ⟨_, read, stays⟩

end Rows

end PatternLint.Yaml.Reader
