import PatternLint.Proofs.Yaml.Admission
import PatternLint.Proofs.Yaml.Form

namespace PatternLint.Yaml

open Config (Content)

section Writing

variable (quote : String → List Char) (indent : Nat)

def lines (config : Config) : List Line :=
  (Config.fields config).map (Reader.fieldLine quote 0) ++ ruleBlock quote indent config.rules

def write (config : Config) : List Char := render (lines quote indent config)

end Writing

namespace Reader

section Whole

theorem run_readDirectives (fuel : Nat) (cursor : Cursor) (opens : cursor.Opens) :
    (readDirectives (fuel + 1) {}).run cursor = some (false, cursor) := by
  have stays := run_skip_begins cursor false opens.begins
  rw [readDirectives]
  simp [stays, opens.directive]

theorem run_finish (fuel : Nat) (cursor : Cursor) (done : cursor.rest = []) :
    (finish (fuel + 1)).run cursor = some ((), cursor) := by
  have begins : Begins cursor.rest := by
    rw [done]
    exact begins_shown [] allBegin_nil
  have stays := run_skip_begins cursor false begins
  rw [finish]
  simp [stays, done]

theorem run_readDocument (fuel : Nat) (cursor reached : Cursor) (root : Node) (opens : cursor.Opens)
    (read : (readBlockNode (fuel + 1) 0 false {}).run cursor = some (root, reached))
    (done : reached.rest = []) :
    (readDocument (fuel + 1)).run cursor = some (⟨root, reached.anchors⟩, reached) := by
  have directives := run_readDirectives fuel cursor opens
  have ended := run_finish fuel reached done
  have going := opens.going
  simp only [Cursor.isAtEnd, Cursor.isAtMarker, Bool.or_eq_false_iff] at going
  obtain ⟨given, dash, dot⟩ := going
  have present : cursor.rest ≠ [] := List.isEmpty_eq_false_iff.mp given
  rw [readDocument]
  simp [directives, present, dash, Cursor.isAtMarker, dot, read, ended]

end Whole

end Reader

section Whole

variable (quote : String → List Char) (quotes : Text.Quotes escapes quote) (indent : Nat)
  (config : Config)

section Characters

theorem admitted_render (lines : List Line) (each : ∀ line ∈ lines, Admitted line.text) :
    Admitted (render lines) := by
  apply admitted_flatMap
  intro line member
  have blanks : Admitted (List.replicate line.column ' ') := by
    intro char inside
    rw [(List.mem_replicate.mp inside).2]
    rfl
  exact admitted_append blanks (admitted_append (each line member)
    (admitted_cons rfl admitted_nil))

include quotes

theorem admitted_fieldLine (column : Nat) (field : String × Content)
    (word : Reader.IsWord field.1.toList) :
    Admitted (Reader.fieldLine quote column field).text := by
  have key : Admitted field.1.toList := fun char member =>
    isAdmitted_of_isWordChar char (word.inside char member)
  exact admitted_append key (admitted_cons rfl (admitted_cons rfl
    (admitted_written quote quotes field.2)))

theorem admitted_ruleLines (rule : RuleSpec) :
    ∀ line ∈ ruleLines quote indent rule, Admitted line.text := by
  intro line member
  rcases List.mem_cons.mp member with rfl | member
  · exact admitted_cons rfl (admitted_cons rfl (admitted_fieldLine quote quotes (indent + 2) _
      (Reader.isWord_of_mem "pattern" (by decide))))
  · obtain ⟨field, present, rfl⟩ := List.mem_map.mp member
    exact admitted_fieldLine quote quotes (indent + 2) field
      (Reader.isWord_of_ruleFields rule field (List.mem_of_mem_tail present))

theorem admitted_ruleBlock (rules : List RuleSpec) :
    ∀ line ∈ ruleBlock quote indent rules, Admitted line.text := by
  cases rules with
  | nil => simp [ruleBlock]
  | cons rule others =>
    intro line member
    rcases List.mem_cons.mp member with rfl | member
    · have all : ['r', 'u', 'l', 'e', 's', ':'].all isAdmitted = true := rfl
      exact List.all_eq_true.mp all
    · obtain ⟨rule, _, member⟩ := List.mem_flatMap.mp member
      exact admitted_ruleLines quote quotes indent rule line member

theorem admitted_write : Admitted (write quote indent config) := by
  apply admitted_render
  intro line member
  rcases List.mem_append.mp member with member | member
  · obtain ⟨field, present, rfl⟩ := List.mem_map.mp member
    exact admitted_fieldLine quote quotes 0 field (Reader.isWord_of_fields config field present)
  · exact admitted_ruleBlock quote quotes indent config.rules line member

end Characters

theorem fields_eq_cons : ∃ field others, Config.fields config = field :: others := by
  apply List.exists_cons_of_ne_nil
  simp [Config.fields]

theorem allBegin_ruleBlock (rules : List RuleSpec) : AllBegin (ruleBlock quote indent rules) := by
  cases rules with
  | nil => exact allBegin_nil
  | cons rule others =>
    intro line member
    rcases List.mem_cons.mp member with rfl | member
    · exact ⟨'r', _, rfl, rfl⟩
    · exact Reader.allBegin_rules quote indent (rule :: others) line member

theorem front_ruleBlock (rules : List RuleSpec) : front (ruleBlock quote indent rules) ≤ 0 := by
  cases rules <;> exact Nat.le_refl 0

include quotes

theorem reading_ruleBlock (rules : List RuleSpec) :
    Reader.Reading (Reader.readRows · 0) (ruleBlock quote indent rules)
      ((ruleMembers rules).map fun member => (Reader.keyNode member.1.toList, member.2)) [] := by
  cases rules with
  | nil => exact Reader.reading_rows_end 0 [] allBegin_nil (.inl rfl)
  | cons rule others => exact Reader.reading_rows_rules quote quotes indent rule others

omit quotes in
theorem isBefore_write :
    Cursor.IsBefore { rest := write quote indent config } (lines quote indent config) := by
  have front : front (lines quote indent config) = 0 := by
    obtain ⟨field, others, same⟩ := fields_eq_cons config
    rw [lines, same]
    rfl
  have shown := render_eq (lines quote indent config)
  rw [front, List.replicate_zero, List.nil_append] at shown
  exact ⟨shown, front.symm, rfl⟩

omit quotes in
theorem opens_write : Cursor.Opens { rest := write quote indent config } := by
  have words := Reader.isWord_of_fields config
  have before := isBefore_write quote indent config
  obtain ⟨field, others, same⟩ := fields_eq_cons config
  rw [same] at words
  rw [lines, same] at before
  exact Reader.opens_fieldLine quote _ 0 field (words field List.mem_cons_self) _ before

theorem run_readDocument_write : ∃ finish : Cursor,
    (Reader.readDocument (4 * (write quote indent config).length + 16)).run
        { rest := write quote indent config } =
      some (⟨tableOf ((Config.fields config).map fieldMember ++ ruleMembers config.rules),
        finish.anchors⟩, finish) := by
  have words := Reader.isWord_of_fields config
  have before := isBefore_write quote indent config
  have root : tableOf ((Config.fields config).map fieldMember ++ ruleMembers config.rules) =
      .table ((Config.fields config).map Reader.fieldRow ++ (ruleMembers config.rules).map
        fun member => (Reader.keyNode member.1.toList, member.2)) := by
    rw [tableOf, List.map_append, rows_fieldMembers]
  obtain ⟨field, others, same⟩ := fields_eq_cons config
  rw [root, same]
  rw [same] at words
  rw [lines, same] at before
  have word := words field List.mem_cons_self
  have later : ∀ field ∈ others, Reader.IsWord field.1.toList := fun other member =>
    words other (List.mem_cons_of_mem _ member)
  have opens := opens_write quote indent config
  have block := allBegin_ruleBlock quote indent config.rules
  have outside := front_ruleBlock quote indent config.rules
  have further := Reader.reading_rows_fields quote quotes 0 others later _ [] block outside _
    (reading_ruleBlock quote quotes indent config.rules)
  obtain ⟨finish, table, ended⟩ := Reader.run_readBlockNode_fields quote quotes 0 field word _ []
    (Reader.allBegin_append (Reader.allBegin_fieldLines quote 0 others later) block)
    (Reader.front_fieldLines quote 0 others _ outside) _ further _ _
    (4 * (write quote indent config).length + 16) 0 false
    (Reader.run_skip_begins _ false opens.begins) before (Nat.le_refl 0)
    (Nat.add_le_add_left (by decide) _)
  exact ⟨finish, Reader.run_readDocument _ _ finish _ opens table ended.rest⟩

theorem read?_write (small : ∀ count ∈ config.threads, count < 2 ^ 63) :
    ∃ found, read? (String.ofList (write quote indent config)) = some found ∧
      Config.ShowsConfig (document found) config := by
  obtain ⟨finish, run⟩ := run_readDocument_write quote quotes indent config
  refine ⟨⟨_, finish.anchors⟩, ?_, showsConfig_of_root _ config small rfl⟩
  have admitted : (write quote indent config).all isAdmitted = true :=
    List.all_eq_true.mpr (admitted_write quote quotes indent config)
  have begins := (opens_write quote indent config).begins
  unfold read?
  rw [String.toList_ofList]
  dsimp only
  split
  · next rest same =>
    have mark := begins '\ufeff' (by rw [same]; rfl)
    cases mark
  · rw [if_pos admitted, run]
    rfl

end Whole

end PatternLint.Yaml
