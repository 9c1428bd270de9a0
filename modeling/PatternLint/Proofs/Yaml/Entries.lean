import PatternLint.Proofs.Yaml.Rows

namespace PatternLint.Yaml

open Config (Content)

section Writing

variable (quote : String → List Char) (indent : Nat)

/-- A dash stands before the first key of a rule, and the other keys stand below that one. -/
def ruleLines (rule : RuleSpec) : List Line :=
  ⟨indent, '-' :: ' ' ::
      (Reader.fieldLine quote (indent + 2) ("pattern", .text rule.pattern)).text⟩ ::
    (Config.ruleFields rule).tail.map (Reader.fieldLine quote (indent + 2))

def ruleBlock : List RuleSpec → List Line
  | [] => []
  | rules => ⟨0, ['r', 'u', 'l', 'e', 's', ':']⟩ :: rules.flatMap (ruleLines quote indent)

end Writing

namespace Reader

section Entries

variable (quote : String → List Char) (quotes : Text.Quotes escapes quote) (indent : Nat)

def ruleNode (rule : RuleSpec) : Node := .table ((Config.ruleFields rule).map fieldRow)

theorem isWord_of_mem (key : String) (member : key ∈ Config.keys ++ Config.ruleKeys) :
    IsWord key.toList := by
  have all : ∀ key ∈ Config.keys ++ Config.ruleKeys, key.toList ≠ [] ∧
      key.toList.all isWordChar = true ∧ key.toList.length ≤ keyLimit := by
    simp [Config.keys, Config.ruleKeys, isWordChar, keyLimit]
  obtain ⟨given, inside, short⟩ := all key member
  exact ⟨given, List.all_eq_true.mp inside, short⟩

theorem isWord_of_ruleFields (rule : RuleSpec) :
    ∀ field ∈ Config.ruleFields rule, IsWord field.1.toList := by
  intro field member
  have key := (Config.keys_ruleFields rule).subset (List.mem_map_of_mem member)
  exact isWord_of_mem field.1 (List.mem_append_right _ key)

theorem isWord_of_fields (config : Config) :
    ∀ field ∈ Config.fields config, IsWord field.1.toList := by
  intro field member
  have inside : Config.ownKeys ⊆ Config.keys := by decide
  have key := (Config.keys_fields config).subset (List.mem_map_of_mem member)
  exact isWord_of_mem field.1 (List.mem_append_left _ (inside key))

theorem reading_entries_end (level : Bool) : Reading (readEntries · indent level) [] [] [] := by
  intro cursor fuel before enough
  obtain ⟨fuel, rfl⟩ : ∃ more, fuel = more + 1 := Nat.exists_eq_add_of_le' (by omega)
  have rest : cursor.rest = [] := before.rest
  have stays := run_skip_begins cursor false (before.rest ▸ begins_shown [] allBegin_nil)
  have ends : cursor.isAtEnd = true := by
    simp [Cursor.isAtEnd, rest]
  have run : (readEntries (fuel + 1) indent level).run cursor = some ([], cursor) := by
    rw [readEntries]
    simp [stays, ends]
  exact ⟨cursor, run, before⟩

/-- A dash with a blank behind it is no mark between documents. -/
theorem going_of_dash (cursor : Cursor) (rest : List Char)
    (stands : cursor.rest = '-' :: ' ' :: rest) : cursor.isAtEnd = false := by
  cases rest <;> simp [Cursor.isAtEnd, Cursor.isAtMarker, Cursor.isAtMark, stands]

section Steps

variable (cursor : Cursor) (line : Line) (lines : List Line)
  (before : cursor.IsBefore (⟨indent, '-' :: ' ' :: line.text⟩ :: lines))

include before

theorem run_readEntries_entry (fuel : Nat) (level : Bool) (entry : Node) (entries : List Node)
    (reached finish : Cursor)
    (read : (readBlockNode fuel (indent + 1) false {}).run ((cursor.advance 1).allow true) =
      some (entry, reached))
    (further : (readEntries fuel indent level).run reached = some (entries, finish)) :
    (readEntries (fuel + 1) indent level).run cursor = some (entry :: entries, finish) := by
  have stands : cursor.rest = '-' :: ' ' :: (line.text ++ '\n' :: render lines) := before.rest
  have stays := run_skip_begins cursor false (stands ▸ begins_cons '-' _ rfl)
  have going := going_of_dash cursor _ stands
  have dash : cursor.isAt '-' = true := by
    simp [Cursor.isAt, stands, atGap, isBlank]
  have column : cursor.column = indent := before.column
  have allowed := before.keyAllowed
  rw [readEntries]
  simp [stays, going, dash, column, allowed, read, further]

theorem isBefore_behind_dash (deeper : line.column = indent + 2) :
    (((cursor.advance 1).allow true).advance 1).IsBefore (line :: lines) := by
  have stands : cursor.rest = '-' :: ' ' :: (line.text ++ '\n' :: render lines) := before.rest
  have column : cursor.column = indent := before.column
  refine ⟨?_, ?_, rfl⟩
  · simp [Cursor.rest_advance, stands, shown]
  · simp [column, front, deeper]

theorem run_skip_behind_dash (begin : AllBegin (line :: lines)) :
    (skip false).run ((cursor.advance 1).allow true) =
      some ((), ((cursor.advance 1).allow true).advance 1) := by
  have stands : cursor.rest = '-' :: ' ' :: (line.text ++ '\n' :: render lines) := before.rest
  apply run_skip_blanks _ false 1 (shown (line :: lines)) _ (begins_shown _ begin)
  rw [Cursor.rest_allow, Cursor.rest_advance, stands]
  rfl

end Steps

include quotes

theorem run_readBlockNode_rule (rule : RuleSpec) (lines : List Line) (begin : AllBegin lines)
    (outside : front lines ≤ indent) (cursor : Cursor)
    (before : cursor.IsBefore (ruleLines quote indent rule ++ lines)) (fuel : Nat)
    (enough : 4 * cursor.rest.length ≤ fuel) :
    ∃ reached, (readBlockNode fuel (indent + 1) false {}).run ((cursor.advance 1).allow true) =
      some (ruleNode rule, reached) ∧ reached.IsBefore lines := by
  let pattern : String × Content := ("pattern", .text rule.pattern)
  let others := (Config.ruleFields rule).tail
  have words : ∀ field ∈ others, IsWord field.1.toList := fun field member =>
    isWord_of_ruleFields rule field (List.mem_of_mem_tail member)
  have first : AllBegin ((pattern :: others).map (fieldLine quote (indent + 2)) ++ lines) :=
    allBegin_append (allBegin_fieldLines quote _ _ (isWord_of_ruleFields rule)) begin
  have start :=
    isBefore_behind_dash indent cursor (fieldLine quote (indent + 2) pattern) _ before rfl
  have skipped :=
    run_skip_behind_dash indent cursor (fieldLine quote (indent + 2) pattern) _ before first
  have rows := reading_rows_fields quote quotes (indent + 2) others words lines lines begin
    (by omega) [] (reading_rows_end (indent + 2) lines begin (.inr (by omega)))
  have given : cursor.rest.length = (shown (ruleLines quote indent rule ++ lines)).length :=
    congrArg List.length before.rest
  simp only [ruleLines, List.cons_append, shown, List.length_cons] at given
  have behind : 4 * (((cursor.advance 1).allow true).advance 1).rest.length + 4 ≤ fuel := by
    simp only [Cursor.rest_advance, Cursor.rest_allow, List.length_drop]
    omega
  obtain ⟨reached, table, arrived⟩ := run_readBlockNode_fields quote quotes (indent + 2) pattern
    (isWord_of_mem "pattern" (by decide)) _ lines
    (allBegin_append (allBegin_fieldLines quote _ others words) begin)
    (front_fieldLines quote _ others lines (by omega)) _ rows _ _ fuel (indent + 1) false skipped
    start (by omega) behind
  rw [List.append_nil] at table
  exact ⟨reached, table, arrived⟩

theorem reading_entries_rule (level : Bool) (rule : RuleSpec) (lines later : List Line)
    (begin : AllBegin lines) (outside : front lines ≤ indent) (entries : List Node)
    (further : Reading (readEntries · indent level) lines entries later) :
    Reading (readEntries · indent level) (ruleLines quote indent rule ++ lines)
      (ruleNode rule :: entries) later := by
  intro cursor fuel before enough
  obtain ⟨fuel, rfl⟩ : ∃ more, fuel = more + 1 := Nat.exists_eq_add_of_le' (by omega)
  obtain ⟨reached, table, arrived⟩ := run_readBlockNode_rule quote quotes indent rule lines begin
    outside cursor before fuel (by omega)
  have left : 4 * reached.rest.length + 4 ≤ fuel := by
    have given : cursor.rest.length = (shown (ruleLines quote indent rule ++ lines)).length :=
      congrArg List.length before.rest
    have shorter := length_shown_le lines
    simp only [ruleLines, List.cons_append, shown, List.length_cons, render_append,
      List.length_append] at given
    rw [arrived.rest]
    omega
  obtain ⟨finish, rest, ended⟩ := further reached fuel arrived left
  exact ⟨finish, run_readEntries_entry indent cursor _ _ before fuel level _ _ reached finish table
    rest, ended⟩

omit quotes in
theorem allBegin_rules (rules : List RuleSpec) :
    AllBegin (rules.flatMap (ruleLines quote indent)) := by
  intro line member
  obtain ⟨rule, _, member⟩ := List.mem_flatMap.mp member
  rcases List.mem_cons.mp member with rfl | member
  · exact ⟨'-', _, rfl, rfl⟩
  · have others : ∀ field ∈ (Config.ruleFields rule).tail, IsWord field.1.toList :=
      fun field present => isWord_of_ruleFields rule field (List.mem_of_mem_tail present)
    exact allBegin_fieldLines quote (indent + 2) _ others line member

omit quotes in
theorem front_rules (rules : List RuleSpec) :
    front (rules.flatMap (ruleLines quote indent)) ≤ indent := by
  cases rules with
  | nil => exact Nat.zero_le indent
  | cons rule rules => exact Nat.le_refl indent

theorem reading_entries_rules (level : Bool) (rules : List RuleSpec) :
    Reading (readEntries · indent level) (rules.flatMap (ruleLines quote indent))
      (rules.map ruleNode) [] := by
  induction rules with
  | nil => exact reading_entries_end indent level
  | cons rule rules ih =>
    exact reading_entries_rule quote quotes indent level rule _ []
      (allBegin_rules quote indent rules) (front_rules quote indent rules) _ ih

end Entries

section Rules

variable (quote : String → List Char) (quotes : Text.Quotes escapes quote) (indent : Nat)

/-- The entries of a list may begin in the column of its key. -/
theorem run_readBlockNode_entries (fuel : Nat) (cursor start : Cursor) (entries : List Node)
    (rest : List Char) (later : List Line)
    (skipped : (skip false).run cursor = some ((), start))
    (stands : start.rest = '-' :: ' ' :: rest)
    (read : ∀ level, ∃ finish, (readEntries fuel start.column level).run start =
      some (entries, finish) ∧ finish.IsBefore later) :
    ∃ finish, (readBlockNode (fuel + 1) 1 true {}).run cursor = some (.list entries, finish) ∧
      finish.IsBefore later := by
  have going := going_of_dash start rest stands
  have dash : start.isAt '-' = true := by
    simp [Cursor.isAt, stands, atGap, isBlank]
  cases column : start.column with
  | zero =>
    obtain ⟨finish, below, ended⟩ := read true
    have settled := run_settle_list finish entries
    rw [column] at below
    refine ⟨finish, ?_, ended⟩
    rw [readBlockNode]
    simp [skipped, going, dash, column, below, settled]
  | succ column =>
    obtain ⟨finish, inside, ended⟩ := read false
    have settled := run_settle_list finish entries
    rw [column] at inside
    refine ⟨finish, ?_, ended⟩
    rw [readBlockNode]
    simp [skipped, going, dash, column, inside, settled]

include quotes

theorem reading_rows_rules (rule : RuleSpec) (others : List RuleSpec) :
    Reading (readRows · 0) (ruleBlock quote indent (rule :: others))
      [(keyNode "rules".toList, .list ((rule :: others).map ruleNode))] [] := by
  intro cursor fuel before enough
  let entries := (rule :: others).flatMap (ruleLines quote indent)
  have begins : Begins (shown entries) := begins_shown _ (allBegin_rules quote indent _)
  have stands : cursor.rest = "rules".toList ++ ':' :: '\n' :: render entries := before.rest
  obtain ⟨fuel, rfl⟩ : ∃ more, fuel = more + 3 := Nat.exists_eq_add_of_le' (by omega)
  let behind := (((cursor.advance 5).allow false).advance 1).allow false
  have next : behind.rest = '\n' :: render entries := by
    simp [behind, Cursor.rest_advance, stands]
  have start := isBefore_afterLine behind entries next
  have skipped := run_skip_line behind (front entries) (shown entries)
    (by rw [next, render_eq]) begins
  have size := length_shown_le entries
  have length := congrArg List.length stands
  simp only [List.length_append, List.length_cons] at length
  obtain ⟨reached, list, arrived⟩ := run_readBlockNode_entries fuel behind _ _ _ [] skipped
    start.rest fun level => by
      rw [start.column]
      exact reading_entries_rules quote quotes indent level (rule :: others) _ fuel start
        (by rw [start.rest]; omega)
  have value : (readRowValue (fuel + 2) 0 false).run ((cursor.advance 5).allow false) =
      some (.list ((rule :: others).map ruleNode), reached) := by
    rw [readRowValue]
    exact list
  obtain ⟨finish, rest, ended⟩ := reading_rows_end 0 [] allBegin_nil (.inl rfl) reached
    (fuel + 2) arrived (by rw [arrived.rest, shown, List.length_nil]; omega)
  exact ⟨finish, run_readRows_row (fuel + 1) cursor _ _ (isWord_of_mem "rules" (by decide)) stands
    rfl before.keyAllowed before.column value rest, ended⟩

end Rules

end Reader

end PatternLint.Yaml
