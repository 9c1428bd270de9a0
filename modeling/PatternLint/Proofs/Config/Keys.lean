import PatternLint.Proofs.Attempt
import PatternLint.Proofs.Config.Loading

namespace PatternLint.Config

def ruleKeys : List String := ["pattern", "message", "allow"]

/-- The key is a text, and one of those that are declared. -/
def Declared (keys : List String) (key : Option String) : Prop := ∃ name ∈ keys, key = some name

instance (keys : List String) (key : Option String) : Decidable (Declared keys key) :=
  inferInstanceAs (Decidable (∃ name ∈ keys, key = some name))

section

variable (document : Document)

def HasMember (part : document.part) (key : Option String) (value : document.part) : Prop :=
  ∃ members, document.look part = some (.table members) ∧ (key, value) ∈ members

/-- If the part is a table, then its keys are texts, and what is read is in the members with a
declared key. -/
def ReadFrom (part : document.part) (rule : RuleSpec) : Prop :=
  ∀ members, document.look part = some (.table members) → ∃ named : List (String × document.part),
    members = named.map (fun member => (some member.1, member.2)) ∧
      ruleOfMembers? document (named.filter fun member => ruleKeys.contains member.1) = some rule

end

variable {document : Document}

theorem members?_eq_some_iff {part : document.part}
    {members : List (Option String × document.part)}
    (looks : document.look part = some (.table members)) (named : List (String × document.part)) :
    document.members? part = some named ↔
      members = named.map fun member => (some member.1, member.2) := by
  have keyed : ∀ (member : Option String × document.part) (name : String × document.part),
      (member.1.map fun key => (key, member.2)) = some name ↔ member = (some name.1, name.2) := by
    rintro ⟨key, value⟩ ⟨name, other⟩
    cases key <;> simp
  have read : document.members? part =
      members.mapM fun member => member.1.map fun key => (key, member.2) := by
    rw [Document.members?, looks]
  simp only [read, mapM_eq_some_iff, keyed]
  rw [← List.forall₂_map_right_iff (R := Eq), List.forall₂_eq_eq_eq]

theorem member?_filter {part Value : Type} (members : List (String × part)) (keys : List String)
    (key : String) (declared : key ∈ keys) (read : part → Option Value) (missing : Value) :
    member? (members.filter fun member => keys.contains member.1) key read missing =
      member? members key read missing := by
  have same : ∀ member : String × part,
      (decide (member.1 = key) && keys.contains member.1) = decide (member.1 = key) := by
    intro member
    by_cases named : member.1 = key
    · simp [named, declared]
    · simp [named]
  simp only [member?, List.filter_filter, same]

/-- Members with other keys make no difference to a rule, whatever their values are. -/
theorem ruleOfMembers?_filter (members : List (String × document.part)) :
    ruleOfMembers? document (members.filter fun member => ruleKeys.contains member.1) =
      ruleOfMembers? document members := by
  simp only [ruleOfMembers?, member?_filter members ruleKeys "pattern" (by decide),
    member?_filter members ruleKeys "message" (by decide),
    member?_filter members ruleKeys "allow" (by decide)]

theorem readFrom_of_rule? (part : document.part) (rule : RuleSpec)
    (read : rule? document part = some rule) : ReadFrom document part rule := by
  intro members looks
  unfold rule? at read
  split at read
  · rename_i items list
    rw [looks] at list
    cases list
  · obtain ⟨named, keyed, read⟩ := Option.bind_eq_some_iff.mp read
    refine ⟨named, (members?_eq_some_iff looks named).mp keyed, ?_⟩
    rw [ruleOfMembers?_filter]
    exact read

theorem ofDocument?_of_undeclared (key : Option String) (value : document.part)
    (held : HasMember document document.top key value) (undeclared : ¬ Declared keys key) :
    ofDocument? document = none := by
  obtain ⟨members, looks, member⟩ := held
  refine Option.eq_none_iff_forall_ne_some.mpr fun config read => ?_
  obtain ⟨named, keyed, read⟩ := Option.bind_eq_some_iff.mp read
  rw [(members?_eq_some_iff looks named).mp keyed] at member
  obtain ⟨⟨name, other⟩, given, same⟩ := List.mem_map.mp member
  cases same
  unfold ofMembers? at read
  split at read
  · rename_i all
    have known := List.all_eq_true.mp all _ given
    exact undeclared ⟨name, List.contains_iff_mem.mp known, rfl⟩
  · cases read

theorem read_of_member? {part Value : Type} {members : List (String × part)} {key : String}
    {read : part → Option Value} {missing value : Value}
    (found : member? members key read missing = some value) (item : part)
    (member : (key, item) ∈ members) : read item = some value := by
  have kept : (key, item) ∈ members.filter fun member => member.1 = key :=
    List.mem_filter.mpr ⟨member, decide_eq_true rfl⟩
  unfold member? at found
  split at found
  · rename_i none
    rw [none] at kept
    cases kept
  · rename_i only
    rw [only] at kept
    cases List.mem_singleton.mp kept
    exact found
  · cases found

theorem rules_of_ofDocument? (config : Config) (read : ofDocument? document = some config) :
    ∃ named, document.members? document.top = some named ∧
      member? named "rules" (document.list? (rule? document)) [] = some config.rules := by
  obtain ⟨named, keyed, read⟩ := Option.bind_eq_some_iff.mp read
  refine ⟨named, keyed, ?_⟩
  unfold ofMembers? at read
  split at read
  · simp only [Option.bind_eq_bind, Option.bind_eq_some_iff, Option.pure_def, Option.some.injEq]
      at read
    obtain ⟨_, _, _, _, _, _, _, _, _, _, _, _, rules, found, same⟩ := read
    rw [← same]
    exact found
  · cases read

theorem forall₂_readFrom (config : Config) (read : ofDocument? document = some config)
    (part : document.part) (held : HasMember document document.top (some "rules") part)
    (items : List document.part) (listed : document.look part = some (.list items)) :
    List.Forall₂ (ReadFrom document) items config.rules := by
  obtain ⟨named, keyed, found⟩ := rules_of_ofDocument? config read
  obtain ⟨members, looks, member⟩ := held
  rw [(members?_eq_some_iff looks named).mp keyed] at member
  obtain ⟨⟨name, other⟩, given, same⟩ := List.mem_map.mp member
  cases same
  have rules := read_of_member? found other given
  rw [Document.list?, listed] at rules
  exact ((mapM_eq_some_iff _ items config.rules).mp rules).imp readFrom_of_rule?

theorem read?_of_document? {format : Format} {text : String}
    (parsed : format.document? text = some document) :
    format.read? text = ofDocument? document := by
  rw [Format.read?, parsed, Option.bind_some]

theorem load_of_document? {tree : FileTree} {base : Location} {path : RawText} {text : String}
    (found : tree.read base path = .ok text.toUTF8)
    (parsed : (Format.ofPath path).document? text = some document) :
    load tree base path =
      (ofDocument? document).elim
        (.error (.config path (.malformed (Format.ofPath path) text))) .ok := by
  cases read : ofDocument? document with
  | none => exact load_of_loads _ _ _ _ (.malformed text found (read?_of_document? parsed ▸ read))
  | some config =>
    exact load_of_loads _ _ _ _ (.config text config found (read?_of_document? parsed ▸ read))

/-- A document with a key at the top that is not declared is refused. In a rule only the declared
keys are read, and others do not matter. -/
theorem load_keys (tree : FileTree) (base : Location) (path : RawText) (text : String)
    (document : Document) (found : tree.read base path = .ok text.toUTF8)
    (parsed : (Format.ofPath path).document? text = some document) :
    ((∃ key value, HasMember document document.top key value ∧ ¬ Declared keys key) →
        load tree base path = .error (.config path (.malformed (Format.ofPath path) text))) ∧
      ∀ config, load tree base path = .ok config →
        ∀ part, HasMember document document.top (some "rules") part →
          ∀ items, document.look part = some (.list items) →
            List.Forall₂ (ReadFrom document) items config.rules := by
  rw [load_of_document? found parsed]
  constructor
  · rintro ⟨key, value, held, undeclared⟩
    rw [ofDocument?_of_undeclared key value held undeclared]
    rfl
  · intro config loaded part held items listed
    cases read : ofDocument? document with
    | none =>
      rw [read] at loaded
      cases loaded
    | some other =>
      rw [read] at loaded
      cases loaded
      exact forall₂_readFrom config read part held items listed

def onlyFile (text : String) : FileTree where
  entries := [([firstName], .file text.toUTF8)]
  distinct := by simp
  closed := by simp [directoriesOf]

theorem join_firstName : Path.join [Path.slash] firstName.bytes = Text.raw "/lintcheck.toml" := by
  decide +kernel

theorem resolve_firstName {tree : FileTree} {bytes : ByteArray}
    (stands : tree.stands? [firstName] = some (.file bytes)) :
    tree.resolve [] (Text.raw "/lintcheck.toml") = .ok (.file [firstName] bytes) := by
  rw [← join_firstName]
  exact tree.resolve_join (tree.resolve_slash []) firstName _ (.file [] firstName bytes stands)
    (by decide +kernel)

theorem find?_firstName {tree : FileTree} {bytes : ByteArray}
    (stands : tree.stands? [firstName] = some (.file bytes)) :
    find? tree [] [Path.slash] = some (Text.raw "/lintcheck.toml") := by
  have file := tree.leadsToFile_of_resolve (resolve_firstName stands)
  rw [← join_firstName] at file ⊢
  exact find?_eq_firstName file

theorem find?_onlyFile (text : String) :
    find? (onlyFile text) [] [Path.slash] = some (Text.raw "/lintcheck.toml") :=
  find?_firstName rfl

theorem read_onlyFile (text : String) :
    (onlyFile text).read [] (Text.raw "/lintcheck.toml") = .ok text.toUTF8 :=
  (FileTree.read_eq_ok_iff ..).mpr ⟨_, resolve_firstName rfl⟩

theorem ofPath_onlyFile : Format.ofPath (Text.raw "/lintcheck.toml") = .toml := by decide +kernel

theorem loads_onlyFile (text : String) (config : Config)
    (read : Format.toml.read? text = some config) :
    Loads (onlyFile text) [] (Text.raw "/lintcheck.toml") (.ok config) :=
  .config text config (read_onlyFile text) (ofPath_onlyFile ▸ read)

theorem Format.document?_toml {text : String} {members : Toml.Members}
    (read : Toml.read? text = some members) :
    Format.toml.document? text = some (Toml.document members) := by
  rw [Format.document?, read]
  rfl

theorem misspelt_exclude_refused :
    load (onlyFile "exlude=[]") [] (Text.raw "/lintcheck.toml") =
      .error (.config (Text.raw "/lintcheck.toml") (.malformed .toml "exlude=[]")) := by
  have keys : (Toml.read? "exlude=[]").map (List.map Prod.fst) = some ["exlude"] := by
    decide +kernel
  obtain ⟨members, read, keys⟩ := Option.map_eq_some_iff.mp keys
  obtain ⟨⟨_, value⟩, rfl, rfl⟩ := List.map_eq_singleton_iff.mp keys
  have parsed := Format.document?_toml read
  apply (load_keys _ _ _ _ _ (read_onlyFile _) (ofPath_onlyFile ▸ parsed)).1
  exact ⟨some "exlude", value, ⟨_, rfl, List.mem_singleton_self _⟩, by decide⟩

/-- The table of a list of one table that is made by a header. -/
def headed? : Toml.Value → Option Toml.Members
  | .tables [] members => some members
  | _ => none

theorem eq_tables_of_headed? {value : Toml.Value} {members : Toml.Members}
    (headed : headed? value = some members) : value = .tables [] members := by
  unfold headed? at headed
  split at headed
  · rw [Option.some.inj headed]
  · cases headed

/-- A key of a rule that is misspelt is passed over, and what it should have excused is not. -/
theorem misspelt_allow_passes :
    ∃ document part item value,
      Format.toml.document? "[[rules]]\npattern=\"http://\"\nallw=[\"http://www\"]" =
          some document ∧
        HasMember document document.top (some "rules") part ∧
        document.look part = some (.list [item]) ∧
        HasMember document item (some "allw") value ∧ ¬ Declared ruleKeys (some "allw") ∧
        load (onlyFile "[[rules]]\npattern=\"http://\"\nallw=[\"http://www\"]") []
            (Text.raw "/lintcheck.toml") = .ok { rules := [⟨"http://", none, []⟩] } := by
  have read : Format.toml.read? "[[rules]]\npattern=\"http://\"\nallw=[\"http://www\"]" =
      some { rules := [⟨"http://", none, []⟩] } := by decide +kernel
  have outline : (Toml.read? "[[rules]]\npattern=\"http://\"\nallw=[\"http://www\"]").map
      (List.map fun member => (member.1, (headed? member.2).map (List.map Prod.fst))) =
        some [("rules", some ["pattern", "allw"])] := by decide +kernel
  obtain ⟨members, parsed, top⟩ := Option.map_eq_some_iff.mp outline
  obtain ⟨⟨_, rules⟩, rfl, only⟩ := List.map_eq_singleton_iff.mp top
  obtain ⟨rfl, inside⟩ := Prod.mk.inj only
  obtain ⟨rule, headed, keys⟩ := Option.map_eq_some_iff.mp inside
  obtain ⟨⟨_, pattern⟩, others, rfl, rfl, second⟩ := List.map_eq_cons_iff.mp keys
  obtain ⟨⟨_, allowed⟩, rfl, rfl⟩ := List.map_eq_singleton_iff.mp second
  cases eq_tables_of_headed? headed
  refine ⟨_, _, _, allowed, Format.document?_toml parsed,
    ⟨_, rfl, List.mem_singleton_self _⟩, rfl, ⟨_, rfl, ?_⟩, by decide, ?_⟩
  · exact List.mem_cons_of_mem _ (List.mem_singleton_self _)
  · exact load_of_loads _ _ _ _ (loads_onlyFile _ _ read)

end PatternLint.Config
