import PatternLint.Proofs.Config.Keys
import PatternLint.Proofs.Text.Quoting

/-!
What is written of a configuration: its keys with their values, without saying in which format. A
document that shows them is read as this configuration.
-/

namespace PatternLint

namespace Config

inductive Content where
  | text (value : String)
  | texts (values : List String)
  | flag (value : Bool)
  | count (value : Nat)

def optionalField {Value : Type} (key : String) (wrap : Value → Content) (given : Option Value) :
    List (String × Content) :=
  (given.map fun value => (key, wrap value)).toList

def fields (config : Config) : List (String × Content) :=
  optionalField "output" .text config.output ++
    [("include", .texts config.includes), ("exclude", .texts config.excludes)] ++
    optionalField "default_excludes" .flag config.defaultExcludes ++
    optionalField "preset" .text config.preset ++
    optionalField "threads" .count config.threads

def ruleFields (rule : RuleSpec) : List (String × Content) :=
  [("pattern", .text rule.pattern)] ++ optionalField "message" .text rule.message ++
    [("allow", .texts rule.allow)]

/-- Numbers have 64 bits, one of them for the sign. -/
def Content.Fits : Content → Prop
  | count value => value < 2 ^ 63
  | _ => True

theorem Content.lt_countLimit (value : Nat) (fit : (Content.count value).Fits) :
    value < countLimit := by
  have within : 2 ^ 63 < countLimit := by decide
  exact Nat.lt_trans fit within

theorem fits_ruleFields (rule : RuleSpec) : ∀ field ∈ ruleFields rule, field.2.Fits := by
  cases given : rule.message <;> simp [ruleFields, optionalField, given, Content.Fits]

theorem fits_fields (config : Config) (small : ∀ count ∈ config.threads, count < 2 ^ 63) :
    ∀ field ∈ fields config, field.2.Fits := by
  intro field member
  simp only [fields, List.mem_append, List.mem_cons, List.not_mem_nil, or_false,
    optionalField, Option.mem_toList, Option.map_eq_some_iff] at member
  rcases member with (((⟨_, _, rfl⟩ | rfl | rfl) | ⟨_, _, rfl⟩) | ⟨_, _, rfl⟩) | ⟨count, given, rfl⟩
  · trivial
  · trivial
  · trivial
  · trivial
  · trivial
  · exact small count given

/-- How a value is written in either format; lists stand between brackets. -/
def Content.written (quote : String → List Char) : Content → List Char
  | text value => quote value
  | texts values => '[' :: ([',', ' '].intercalate (values.map quote) ++ [']'])
  | flag true => ['t', 'r', 'u', 'e']
  | flag false => ['f', 'a', 'l', 's', 'e']
  | count value => (toString value).toList

def rowTail (quote : String → List Char) : List String → List Char
  | [] => [']']
  | value :: values => ',' :: ' ' :: (quote value ++ rowTail quote values)

theorem written_texts_nil (quote : String → List Char) :
    (Content.texts []).written quote = ['[', ']'] :=
  rfl

theorem written_texts_cons (quote : String → List Char) (value : String) (values : List String) :
    (Content.texts (value :: values)).written quote =
      '[' :: (quote value ++ rowTail quote values) := by
  induction values generalizing value with
  | nil => simp [Content.written, rowTail]
  | cons next values ih =>
    have further := List.cons.inj (ih next)
    simp only [Content.written, List.map_cons, List.intercalate_cons_cons, rowTail] at further ⊢
    simp [← further.2]

theorem length_rowTail (quote : String → List Char) (values : List String) :
    2 * values.length < (rowTail quote values).length := by
  induction values with
  | nil => exact Nat.zero_lt_one
  | cons value values ih =>
    simp only [rowTail, List.length_cons, List.length_append]
    omega

theorem written_count (quote : String → List Char) (value : Nat) :
    (Content.count value).written quote = Nat.toDigits 10 value := by
  rw [Content.written, Nat.toString_eq_ofList_toDigits, String.toList_ofList]

/-- No value begins with a blank or with any other mark than these. -/
theorem written_begins {letters : List (Char × Char)} (quote : String → List Char)
    (quotes : Text.Quotes letters quote) (content : Content) :
    ∃ first more, content.written quote = first :: more ∧
      (first = '"' ∨ first = '[' ∨ first.isAlphanum = true) := by
  cases content with
  | text value =>
    obtain ⟨body, _, written⟩ := quotes value
    exact ⟨'"', _, written, .inl rfl⟩
  | texts values => exact ⟨'[', _, rfl, .inr (.inl rfl)⟩
  | flag value =>
    cases value with
    | true => exact ⟨'t', _, rfl, .inr (.inr rfl)⟩
    | false => exact ⟨'f', _, rfl, .inr (.inr rfl)⟩
  | count value =>
    obtain ⟨first, more, same⟩ :=
      List.exists_cons_of_ne_nil (@Nat.toDigits_ne_nil value 10)
    have member : first ∈ Nat.toDigits 10 value := by
      rw [same]
      exact List.mem_cons_self
    have digit := Text.isDigit_of_mem_decimal value first member
    refine ⟨first, more, (written_count quote value).trans same, .inr (.inr ?_)⟩
    rw [Char.isAlphanum, digit, Bool.or_true]

variable (document : Document)

inductive Shows (part : document.part) : Content → Prop where
  | text (value : String) (scalar : Scalar) (looks : document.look part = some (.scalar scalar))
      (told : scalar.text? = some value) (given : scalar.absent? = some false) :
      Shows part (.text value)
  | texts (values : List String) (items : List document.part)
      (looks : document.look part = some (.list items))
      (told : List.Forall₂ (fun item value => document.text? item = some value) items values) :
      Shows part (.texts values)
  | flag (value : Bool) (scalar : Scalar) (looks : document.look part = some (.scalar scalar))
      (told : scalar.flag? = some value) (given : scalar.absent? = some false) :
      Shows part (.flag value)
  | count (value : Nat) (scalar : Scalar) (looks : document.look part = some (.scalar scalar))
      (told : scalar.natural? = some value) (given : scalar.absent? = some false) :
      Shows part (.count value)

def ShowsFields (members : List (String × document.part)) (fields : List (String × Content)) :
    Prop :=
  List.Forall₂ (fun member field => member.1 = field.1 ∧ Shows document member.2 field.2)
    members fields

def IsTable (part : document.part) (members : List (String × document.part)) : Prop :=
  document.look part = some (.table (members.map fun member => (some member.1, member.2)))

def ShowsRule (part : document.part) (rule : RuleSpec) : Prop :=
  ∃ members, IsTable document part members ∧ ShowsFields document members (ruleFields rule)

inductive ShowsRules : List (String × document.part) → List RuleSpec → Prop where
  | none : ShowsRules [] []
  | given (part : document.part) (items : List document.part) (rules : List RuleSpec)
      (looks : document.look part = some (.list items))
      (told : List.Forall₂ (ShowsRule document) items rules) : ShowsRules [("rules", part)] rules

def ShowsConfig (config : Config) : Prop :=
  ∃ members more, IsTable document document.top (members ++ more) ∧
    ShowsFields document members (fields config) ∧ ShowsRules document more config.rules

theorem forall₂_map_left {Value Item : Type} {relates : Item → Value → Prop} (make : Value → Item)
    (values : List Value) (each : ∀ value ∈ values, relates (make value) value) :
    List.Forall₂ relates (values.map make) values :=
  List.forall₂_map_left_iff.mpr (List.forall₂_same.mpr each)

theorem showsFields_map (make : Content → document.part)
    (shows : ∀ content, content.Fits → Shows document (make content) content)
    (fields : List (String × Content)) (fit : ∀ field ∈ fields, field.2.Fits) :
    ShowsFields document (fields.map fun field => (field.1, make field.2)) fields := by
  apply forall₂_map_left
  intro field present
  exact ⟨rfl, shows field.2 (fit field present)⟩

variable {document}

section Values

variable {part : document.part}

theorem Shows.text? {value : String} (shows : Shows document part (.text value)) :
    document.text? part = some value := by
  cases shows with
  | text _ scalar looks told given =>
    simp only [Document.text?, Document.scalar?, looks, bind, Option.bind, told]

theorem optional?_of_scalar {Value : Type} {read : document.part → Option Value} {value : Value}
    {scalar : Scalar} (looks : document.look part = some (.scalar scalar))
    (given : scalar.absent? = some false) (told : read part = some value) :
    document.optional? read part = some (some value) := by
  simp only [Document.optional?, looks, given, told, Option.map_some]

theorem Shows.optionalText? {value : String} (shows : Shows document part (.text value)) :
    document.optional? document.text? part = some (some value) := by
  have told := shows.text?
  cases shows with
  | text _ scalar looks _ given => exact optional?_of_scalar looks given told

theorem Shows.optionalFlag? {value : Bool} (shows : Shows document part (.flag value)) :
    document.optional? document.flag? part = some (some value) := by
  cases shows with
  | flag _ scalar looks told given =>
    apply optional?_of_scalar looks given
    simp only [Document.flag?, Document.scalar?, looks, bind, Option.bind, told]

theorem Shows.optionalCount? {value : Nat} (shows : Shows document part (.count value)) :
    document.optional? document.natural? part = some (some value) := by
  cases shows with
  | count _ scalar looks told given =>
    apply optional?_of_scalar looks given
    simp only [Document.natural?, Document.scalar?, looks, bind, Option.bind, told]

theorem Shows.list? {values : List String} (shows : Shows document part (.texts values)) :
    document.list? document.text? part = some values := by
  cases shows with
  | texts _ items looks told =>
    simp only [Document.list?, looks]
    exact (mapM_eq_some_iff _ _ _).mpr told

end Values

section Members

variable {members : List (String × document.part)} {fields : List (String × Content)}
  (shows : ShowsFields document members fields) (key : String)

include shows

theorem filter_showsFields :
    ShowsFields document (members.filter fun member => member.1 = key)
      (fields.filter fun field => field.1 = key) := by
  induction shows with
  | nil => exact .nil
  | @cons member field _ _ same _ ih =>
    rw [List.filter_cons, List.filter_cons, same.1]
    split
    · exact .cons same ih
    · exact ih

theorem member?_of_field {Value : Type} (content : Content)
    (only : (fields.filter fun field => field.1 = key) = [(key, content)])
    {read : document.part → Option Value} (missing value : Value)
    (reads : ∀ part, Shows document part content → read part = some value) :
    member? members key read missing = some value := by
  have kept := filter_showsFields shows key
  rw [only] at kept
  obtain ⟨member, rest, same, none, parts⟩ := List.forall₂_cons_right_iff.mp kept
  rw [List.forall₂_nil_right_iff.mp none] at parts
  rw [member?, parts]
  exact reads member.2 same.2

theorem member?_of_optionalField {Value : Type} (wrap : Value → Content) (given : Option Value)
    (only : (fields.filter fun field => field.1 = key) = optionalField key wrap given)
    {read : document.part → Option (Option Value)}
    (reads : ∀ part value, Shows document part (wrap value) → read part = some (some value)) :
    member? members key read none = some given := by
  cases given with
  | none =>
    have kept := filter_showsFields shows key
    rw [only] at kept
    rw [member?, List.forall₂_nil_right_iff.mp kept]
  | some value => exact member?_of_field shows key (wrap value) only none _ (reads · value)

theorem keys_showsFields : members.map Prod.fst = fields.map Prod.fst := by
  induction shows with
  | nil => rfl
  | cons same _ ih => rw [List.map_cons, List.map_cons, same.1, ih]

end Members

theorem filter_optionalField {Value : Type} (key other : String) (wrap : Value → Content)
    (given : Option Value) :
    (optionalField key wrap given).filter (fun field => field.1 = other) =
      if key = other then optionalField key wrap given else [] := by
  cases given with
  | none => simp [optionalField]
  | some value =>
    by_cases same : key = other <;> simp [optionalField, same]

theorem rule?_of_shows (part : document.part) (rule : RuleSpec)
    (shows : ShowsRule document part rule) : rule? document part = some rule := by
  obtain ⟨members, table, shows⟩ := shows
  have pattern : member? members "pattern" (fun part => (document.text? part).map some) none =
      some (some rule.pattern) :=
    member?_of_field shows "pattern" (.text rule.pattern)
      (by simp [ruleFields, filter_optionalField]) none _
      fun part told => by rw [told.text?]; rfl
  have message : member? members "message" (document.optional? document.text?) none =
      some rule.message :=
    member?_of_optionalField shows "message" .text rule.message
      (by simp [ruleFields, filter_optionalField]) fun part value told => told.optionalText?
  have allow : member? members "allow" (document.list? document.text?) [] = some rule.allow :=
    member?_of_field shows "allow" (.texts rule.allow)
      (by simp [ruleFields, filter_optionalField]) [] _ fun part told => told.list?
  have named := (members?_eq_some_iff table members).mpr rfl
  unfold rule?
  rw [table]
  simp only [named, ruleOfMembers?, pattern, message, allow, bind, Option.bind]
  rfl

section Rules

variable {more : List (String × document.part)} {rules : List RuleSpec}
  (shows : ShowsRules document more rules)

include shows

theorem member?_beside_rules {Value : Type} (members : List (String × document.part)) (key : String)
    (other : key ≠ "rules") (read : document.part → Option Value) (missing : Value) :
    member? (members ++ more) key read missing = member? members key read missing := by
  have nothing : more.filter (fun member => member.1 = key) = [] := by
    cases shows with
    | none => rfl
    | given => simp [other.symm]
  rw [member?, List.filter_append, nothing, List.append_nil, member?]

theorem member?_rules (members : List (String × document.part))
    (free : members.filter (fun member => member.1 = "rules") = []) :
    member? (members ++ more) "rules" (document.list? (rule? document)) [] = some rules := by
  rw [member?, List.filter_append, free, List.nil_append]
  cases shows with
  | none => rfl
  | given part items rules looks told =>
    have read := (mapM_eq_some_iff (rule? document) items rules).mpr
      (told.imp (rule?_of_shows · ·))
    simpa [Document.list?, looks] using read

theorem keys_showsRules : ∀ member ∈ more, member.1 = "rules" := by
  cases shows <;> simp

end Rules

theorem keys_optionalField {Value : Type} (key : String) (wrap : Value → Content)
    (given : Option Value) : ((optionalField key wrap given).map Prod.fst).Sublist [key] := by
  cases given with
  | none => exact List.nil_sublist _
  | some value => exact List.Sublist.refl _

def ownKeys : List String :=
  ["output", "include", "exclude", "default_excludes", "preset", "threads"]

theorem keys_fields (config : Config) : ((fields config).map Prod.fst).Sublist ownKeys := by
  simp only [fields, List.map_append]
  have lists : (List.map Prod.fst [("include", Content.texts config.includes),
      ("exclude", .texts config.excludes)]).Sublist ["include", "exclude"] := List.Sublist.refl _
  exact ((((keys_optionalField "output" _ _).append lists).append
    (keys_optionalField "default_excludes" _ _)).append (keys_optionalField "preset" _ _)).append
      (keys_optionalField "threads" _ _)

theorem keys_ruleFields (rule : RuleSpec) :
    ((ruleFields rule).map Prod.fst).Sublist ruleKeys := by
  simp only [ruleFields, List.map_append]
  have pattern : (List.map Prod.fst [("pattern", Content.text rule.pattern)]).Sublist
      ["pattern"] := List.Sublist.refl _
  have allow : (List.map Prod.fst [("allow", Content.texts rule.allow)]).Sublist ["allow"] :=
    List.Sublist.refl _
  exact (pattern.append (keys_optionalField "message" _ _)).append allow

theorem key_of_shown {config : Config} {members : List (String × document.part)}
    (shows : ShowsFields document members (fields config)) (member : String × document.part)
    (present : member ∈ members) : member.1 ∈ ownKeys := by
  have key : member.1 ∈ members.map Prod.fst := List.mem_map_of_mem present
  rw [keys_showsFields shows] at key
  exact (keys_fields config).subset key

section Configurations

variable {config : Config} {members more : List (String × document.part)}
  (own : ShowsFields document members (fields config))

include own

theorem known_of_shown (rules : ShowsRules document more config.rules) :
    (members ++ more).all (fun member => keys.contains member.1) = true := by
  apply List.all_eq_true.mpr
  intro member present
  rcases List.mem_append.mp present with present | present
  · have inside : ownKeys ⊆ keys := by decide
    exact List.contains_iff_mem.mpr (inside (key_of_shown own member present))
  · rw [keys_showsRules rules member present]
    decide

theorem filter_rules_of_shown : members.filter (fun member => member.1 = "rules") = [] := by
  apply List.filter_eq_nil_iff.mpr
  intro member present same
  have key := key_of_shown own member present
  rw [of_decide_eq_true same] at key
  exact absurd key (by decide)

end Configurations

theorem ofDocument?_of_shows (config : Config) (shows : ShowsConfig document config) :
    ofDocument? document = some config := by
  obtain ⟨members, more, table, own, rules⟩ := shows
  have named := (members?_eq_some_iff table (members ++ more)).mpr rfl
  have output : member? members "output" (document.optional? document.text?) none =
      some config.output :=
    member?_of_optionalField own "output" .text config.output
      (by simp [fields, filter_optionalField]) fun part value told => told.optionalText?
  have includes : member? members "include" (document.list? document.text?) [] =
      some config.includes :=
    member?_of_field own "include" (.texts config.includes)
      (by simp [fields, filter_optionalField]) [] _ fun part told => told.list?
  have excludes : member? members "exclude" (document.list? document.text?) [] =
      some config.excludes :=
    member?_of_field own "exclude" (.texts config.excludes)
      (by simp [fields, filter_optionalField]) [] _ fun part told => told.list?
  have defaultExcludes : member? members "default_excludes"
      (document.optional? document.flag?) none = some config.defaultExcludes :=
    member?_of_optionalField own "default_excludes" .flag config.defaultExcludes
      (by simp [fields, filter_optionalField]) fun part value told => told.optionalFlag?
  have preset : member? members "preset" (document.optional? document.text?) none =
      some config.preset :=
    member?_of_optionalField own "preset" .text config.preset
      (by simp [fields, filter_optionalField]) fun part value told => told.optionalText?
  have threads : member? members "threads" (document.optional? document.natural?) none =
      some config.threads :=
    member?_of_optionalField own "threads" .count config.threads
      (by simp [fields, filter_optionalField]) fun part value told => told.optionalCount?
  have listed := member?_rules rules members (filter_rules_of_shown own)
  simp only [ofDocument?, named, bind, Option.bind, ofMembers?, known_of_shown own rules, if_true,
    member?_beside_rules rules members, ne_eq, String.reduceEq, not_false_eq_true,
    output, includes, excludes, defaultExcludes, preset, threads, listed]
  rfl

end Config

end PatternLint
