import PatternLint.Proofs.Yaml.Entries
import PatternLint.Yaml.Form

namespace PatternLint.Yaml

open Config (Content)

section Showing

variable (whole : Document)

theorem natural?_toDigits (number : Nat) (small : number < Config.countLimit) :
    natural? (Nat.toDigits 10 number) = some number := by
  have read := Text.natural?_toDigits 10 (by decide) (by decide) number
  have counted : count? 10 (Nat.toDigits 10 number) = some number := by
    rw [count?, read, Option.filter_some, if_pos (decide_eq_true small)]
  have bare := Text.toDigits_ne_zero_cons number
  unfold natural?
  split
  · next rest same => exact absurd same (Text.toDigits_ne number _ rfl)
  · dsimp only
    split
    · exact absurd ‹_› (bare _ _)
    · exact absurd ‹_› (bare _ _)
    · exact absurd ‹_› (bare _ _)
    · exact absurd ‹_› (bare _ _)
    · exact counted

theorem absent?_number (number : Nat) : absent? none .plain (toString number) = some false := by
  have other (name : String) (begins : name.toList.head?.any Char.isDigit = false) :
      number.repr ≠ name := by
    rintro rfl
    rw [Nat.toList_repr] at begins
    exact Text.toDigits_ne number _ begins rfl
  simp [absent?, isNull, other "null" (by decide), other "Null" (by decide),
    other "NULL" (by decide), other "~" (by decide)]

theorem shows_nodeOf (content : Content) (fit : content.Fits) :
    Config.Shows (document whole) (Reader.nodeOf content) content := by
  cases content with
  | text value => exact .text value _ rfl rfl rfl
  | texts values =>
    exact .texts values (values.map (Node.scalar none .quoted)) rfl
      (Config.forall₂_map_left _ values fun value _ => rfl)
  | flag value =>
    cases value with
    | true => exact .flag true _ rfl (by decide) (by decide)
    | false => exact .flag false _ rfl (by decide) (by decide)
  | count value =>
    have told : natural? (toString value).toList = some value := by
      rw [Nat.toString_eq_ofList_toDigits, String.toList_ofList]
      exact natural?_toDigits value (Content.lt_countLimit value fit)
    exact .count value _ rfl told (absent?_number value)

def tableOf (members : List (String × Node)) : Node :=
  .table (members.map fun member => (Reader.keyNode member.1.toList, member.2))

theorem isTable_tableOf (members : List (String × Node)) :
    Config.IsTable (document whole) (tableOf members) members := by
  have keys : (members.map fun member => (Reader.keyNode member.1.toList, member.2)).map
      (fun row => (whole.key? row.1, row.2)) =
        members.map fun member => (some member.1, member.2) := by
    rw [List.map_map]
    apply List.map_congr_left
    intro member _
    simp [Document.key?, Document.resolve, Reader.keyNode]
  exact congrArg (fun rows => some (Config.Form.table rows)) keys

def fieldMember (field : String × Content) : String × Node := (field.1, Reader.nodeOf field.2)

theorem rows_fieldMembers (fields : List (String × Content)) :
    (fields.map fieldMember).map (fun member => (Reader.keyNode member.1.toList, member.2)) =
      fields.map Reader.fieldRow := by
  rw [List.map_map]
  rfl

theorem showsFields_fieldMembers (fields : List (String × Content))
    (fit : ∀ field ∈ fields, field.2.Fits) :
    Config.ShowsFields (document whole) (fields.map fieldMember) fields :=
  Config.showsFields_map (document whole) Reader.nodeOf (shows_nodeOf whole) fields fit

def ruleMembers : List RuleSpec → List (String × Node)
  | [] => []
  | rules => [("rules", .list (rules.map Reader.ruleNode))]

theorem showsRules_ruleMembers (rules : List RuleSpec) :
    Config.ShowsRules (document whole) (ruleMembers rules) rules := by
  cases rules with
  | nil => exact .none
  | cons rule others =>
    refine .given _ ((rule :: others).map Reader.ruleNode) _ rfl ?_
    apply Config.forall₂_map_left Reader.ruleNode
    intro rule _
    have table := isTable_tableOf whole ((Config.ruleFields rule).map fieldMember)
    rw [tableOf, rows_fieldMembers] at table
    exact ⟨_, table, showsFields_fieldMembers whole _ (Config.fits_ruleFields rule)⟩

theorem showsConfig_of_root (config : Config) (small : ∀ count ∈ config.threads, count < 2 ^ 63)
    (root : whole.root =
      tableOf ((Config.fields config).map fieldMember ++ ruleMembers config.rules)) :
    Config.ShowsConfig (document whole) config := by
  refine ⟨_, _, ?_, showsFields_fieldMembers whole _ (Config.fits_fields config small),
    showsRules_ruleMembers whole config.rules⟩
  have table := isTable_tableOf whole
    ((Config.fields config).map fieldMember ++ ruleMembers config.rules)
  rw [← root] at table
  exact table

end Showing

end PatternLint.Yaml
