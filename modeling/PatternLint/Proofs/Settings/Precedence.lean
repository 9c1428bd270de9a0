import PatternLint.Proofs.Attempt
import PatternLint.Proofs.Config.Loading
import PatternLint.Settings

/-!
Where the settings of a run come from. Each of them is taken from the first place that gives it: the
command line, then the configuration file, then what holds otherwise; and of all that can go wrong,
what comes first in a fixed order is reported.
-/

namespace PatternLint

def firstGiven {Value : Type} (places : List (Option Value)) : Option Value := places.findSome? id

def givenList {Item : Type} : List Item → Option (List Item)
  | [] => none
  | items => some items

theorem firstGiven_two {Value : Type} (first second : Option Value) :
    firstGiven [first, second] = (first <|> second) := by
  cases first <;> cases second <;> rfl

theorem eq_firstGiven_two {Value : Type} (first : Option Value) (otherwise value : Value) :
    some value = firstGiven [first, some otherwise] ↔ first.getD otherwise = value := by
  cases first <;> simp [firstGiven, eq_comm]

theorem eq_firstGiven_three {Value : Type} (first second : Option Value)
    (otherwise value : Value) :
    some value = firstGiven [first, second, some otherwise] ↔
      (first <|> second).getD otherwise = value := by
  cases first <;> cases second <;> simp [firstGiven, eq_comm]

theorem eq_firstGiven_list {Item : Type} (given other items : List Item) :
    some items = firstGiven [givenList given, some other] ↔
      Settings.prefer given other = items := by
  cases given <;> simp [firstGiven, givenList, Settings.prefer, eq_comm]

namespace Settings

theorem ofName?_eq_some_iff (name : String) (mode : Report.OutputMode) :
    Report.OutputMode.ofName? name = some mode ↔ mode.name = name := by
  constructor
  · intro named
    unfold Report.OutputMode.ofName? at named
    split at named
    · exact Option.some.inj named ▸ rfl
    · exact Option.some.inj named ▸ rfl
    · cases named
  · intro named
    subst named
    cases mode <;> rfl

theorem ofName?_eq_none_iff (name : String) :
    Report.OutputMode.ofName? name = none ↔ name ≠ "human" ∧ name ≠ "json" := by
  unfold Report.OutputMode.ofName?
  split <;> simp_all

variable (tree : FileTree) (base : Location) (here : RawText) (overrides : Overrides)

/-- The root of a run, and the configuration file that it uses, if any. -/
structure Located (root : RawText) (configPath : Option RawText) : Prop where
  rootFrom : some root = firstGiven
    [overrides.root.map Text.raw, some (Config.detectRoot tree base here)]
  configFrom : configPath = firstGiven
    [overrides.config.map Text.raw, Config.find? tree base root]

/-- What the configuration file says; without one nothing is said. -/
inductive Loaded : Option RawText → Config → Prop
  | nothing : Loaded none {}
  | file (path : RawText) (config : Config) : Config.Loads tree base path (.ok config) →
      Loaded (some path) config

structure Sources (root : RawText) (configPath : Option RawText) (config : Config) :
    Prop where
  located : Located tree base here overrides root configPath
  loaded : Loaded tree base configPath config

def AsksOutput (config : Config) (name : String) : Prop :=
  some name = firstGiven [overrides.output, config.output, some "human"]

inductive PresetRules (config : Config) : List RuleSpec → Prop
  | nothing : firstGiven [overrides.preset, config.preset] = none → PresetRules config []
  | named (name : String) (rules : List RuleSpec) :
      firstGiven [overrides.preset, config.preset] = some name →
        RuleSpec.preset name = .ok rules → PresetRules config rules

/-- The rules that are written out: those of the command line, or else those of the file. -/
inductive OwnRules (config : Config) : List RuleSpec → Prop
  | arguments (rules : List RuleSpec) : overrides.rules ≠ [] →
      List.Forall₂ (fun argument rule => RuleSpec.ofArgument argument = .ok rule)
        overrides.rules rules → OwnRules config rules
  | configured : overrides.rules = [] → OwnRules config config.rules

/-- What can go wrong with the rules, presets first. -/
inductive RuleFailure (config : Config) : Error → Prop
  | preset (name : String) (error : Error) :
      firstGiven [overrides.preset, config.preset] = some name →
        RuleSpec.preset name = .error error → RuleFailure config error
  | argument (preset : List RuleSpec) (argument : String) (error : Error) :
      PresetRules overrides config preset →
        FirstFault RuleSpec.ofArgument overrides.rules argument error → RuleFailure config error

/-- Settings that are taken from where they have to be. -/
structure Settled (config : Config) (settings : Settings) : Prop where
  sources : Sources tree base here overrides settings.root settings.configPath config
  output : AsksOutput overrides config settings.output.name
  includes : some settings.includes =
    firstGiven [givenList overrides.includes, some config.includes]
  excludes : some settings.excludes =
    firstGiven [givenList overrides.excludes, some config.excludes]
  defaultExcludes : some settings.defaultExcludes =
    firstGiven [overrides.defaultExcludes, config.defaultExcludes, some true]
  threads : settings.threads = firstGiven [overrides.threads, config.threads]
  rules : ∃ preset own, PresetRules overrides config preset ∧ OwnRules overrides config own ∧
    settings.rules = preset ++ own
  someRule : settings.rules ≠ []

/-- What keeps settings from being settled; all that comes before it is in order. -/
inductive Refused : Error → Prop
  | config (root path : RawText) (error : Error) :
      Located tree base here overrides root (some path) →
        Config.Loads tree base path (.error error) → Refused error
  | output (root : RawText) (configPath : Option RawText) (config : Config)
      (name : String) :
      Sources tree base here overrides root configPath config →
        AsksOutput overrides config name → name ≠ "human" → name ≠ "json" →
          Refused (.config (configPath.getD []) (.outputMode name))
  | rules (root : RawText) (configPath : Option RawText) (config : Config)
      (mode : Report.OutputMode) (error : Error) :
      Sources tree base here overrides root configPath config →
        AsksOutput overrides config mode.name → RuleFailure overrides config error →
          Refused error
  | noRules (root : RawText) (configPath : Option RawText) (config : Config)
      (mode : Report.OutputMode) :
      Sources tree base here overrides root configPath config →
        AsksOutput overrides config mode.name → PresetRules overrides config [] →
          OwnRules overrides config [] → Refused .noRules

variable {tree base here overrides}

def presetOf (overrides : Overrides) (config : Config) : Except Error (List RuleSpec) :=
  (overrides.preset <|> config.preset).elim (.ok []) RuleSpec.preset

def ownOf (overrides : Overrides) (config : Config) : Except Error (List RuleSpec) :=
  if overrides.rules.isEmpty then .ok config.rules
  else overrides.rules.mapM RuleSpec.ofArgument

theorem rulesOf_eq (config : Config) :
    rulesOf overrides config = presetOf overrides config >>= fun preset =>
      ownOf overrides config >>= fun own => .ok (preset ++ own) := by
  unfold rulesOf presetOf ownOf
  congr 1
  funext preset
  split <;> rfl

theorem presetOf_eq_ok_iff (config : Config) (rules : List RuleSpec) :
    presetOf overrides config = .ok rules ↔ PresetRules overrides config rules := by
  rw [presetOf, ← firstGiven_two]
  constructor
  · intro found
    cases named : firstGiven [overrides.preset, config.preset] with
    | none =>
      rw [named] at found
      exact Except.ok.inj found ▸ .nothing named
    | some name =>
      rw [named] at found
      exact .named name rules named found
  · intro asked
    cases asked with
    | nothing none => rw [none]; rfl
    | named name rules named found => rw [named]; exact found

theorem ownOf_eq_ok_iff (config : Config) (rules : List RuleSpec) :
    ownOf overrides config = .ok rules ↔ OwnRules overrides config rules := by
  unfold ownOf
  constructor
  · intro own
    split at own
    · rename_i none
      exact Except.ok.inj own ▸ .configured (by simpa using none)
    · rename_i given
      exact .arguments rules (by simpa using given) ((mapM_eq_ok_iff _ _ _).mp own)
  · intro own
    cases own with
    | arguments rules given read =>
      rw [if_neg (by simpa using given)]
      exact (mapM_eq_ok_iff RuleSpec.ofArgument _ rules).mpr read
    | configured none => rw [if_pos (by simpa using none)]

theorem rulesOf_eq_ok_iff (config : Config) (rules : List RuleSpec) :
    rulesOf overrides config = .ok rules ↔
      ∃ preset own, PresetRules overrides config preset ∧ OwnRules overrides config own ∧
        rules = preset ++ own := by
  simp only [rulesOf_eq, bind_eq_ok_iff, presetOf_eq_ok_iff, ownOf_eq_ok_iff]
  constructor
  · intro holds
    rcases holds with ⟨preset, named, own, written, same⟩
    exact ⟨preset, own, named, written, (Except.ok.inj same).symm⟩
  · intro holds
    rcases holds with ⟨preset, own, named, written, same⟩
    exact ⟨preset, named, own, written, same ▸ rfl⟩

theorem presetOf_eq_error_iff (config : Config) (error : Error) :
    presetOf overrides config = .error error ↔
      ∃ name, firstGiven [overrides.preset, config.preset] = some name ∧
        RuleSpec.preset name = .error error := by
  rw [presetOf, ← firstGiven_two]
  constructor
  · intro failed
    cases named : firstGiven [overrides.preset, config.preset] with
    | none =>
      rw [named] at failed
      cases failed
    | some name =>
      rw [named] at failed
      exact ⟨name, rfl, failed⟩
  · intro holds
    rcases holds with ⟨name, named, failed⟩
    rw [named]
    exact failed

theorem ownOf_eq_error_iff (config : Config) (error : Error) :
    ownOf overrides config = .error error ↔
      ∃ argument, FirstFault RuleSpec.ofArgument overrides.rules argument error := by
  rw [ownOf, ← mapM_eq_error_iff]
  split
  · rename_i none
    rw [List.isEmpty_iff.mp none]
    exact ⟨nofun, nofun⟩
  · rfl

theorem rulesOf_eq_error_iff (config : Config) (error : Error) :
    rulesOf overrides config = .error error ↔ RuleFailure overrides config error := by
  simp only [rulesOf_eq, bind_eq_error_iff, presetOf_eq_ok_iff, presetOf_eq_error_iff,
    ownOf_eq_error_iff]
  constructor
  · intro holds
    rcases holds with ⟨name, named, failed⟩ | ⟨preset, asked, ⟨argument, fault⟩ | ⟨_, _, failed⟩⟩
    · exact .preset name error named failed
    · exact .argument preset argument error asked fault
    · cases failed
  · intro failure
    cases failure with
    | preset name error named failed => exact .inl ⟨name, named, failed⟩
    | argument preset argument error asked fault =>
      exact .inr ⟨preset, asked, .inl ⟨argument, fault⟩⟩

def configOf (tree : FileTree) (base : Location) (configPath : Option RawText) :
    Except Error Config := configPath.elim (.ok {}) (Config.load tree base)

theorem configOf_eq_ok_iff (configPath : Option RawText) (config : Config) :
    configOf tree base configPath = .ok config ↔ Loaded tree base configPath config := by
  cases configPath with
  | none =>
    constructor
    · intro found
      exact Except.ok.inj found ▸ .nothing
    · intro loaded
      cases loaded
      rfl
  | some path =>
    constructor
    · intro found
      have loads := Config.loads_load tree base path
      rw [show Config.load tree base path = .ok config from found] at loads
      exact .file path config loads
    · intro loaded
      cases loaded with
      | file path config loads => exact Config.load_of_loads tree base path _ loads

theorem configOf_eq_error_iff (configPath : Option RawText) (error : Error) :
    configOf tree base configPath = .error error ↔
      ∃ path, configPath = some path ∧ Config.Loads tree base path (.error error) := by
  cases configPath with
  | none => exact ⟨nofun, nofun⟩
  | some path =>
    constructor
    · intro failed
      have loads := Config.loads_load tree base path
      rw [show Config.load tree base path = .error error from failed] at loads
      exact ⟨path, rfl, loads⟩
    · intro holds
      rcases holds with ⟨other, same, loads⟩
      injection same with same
      subst same
      exact Config.load_of_loads tree base path _ loads

theorem outputMode_eq_ok_iff (configPath : Option RawText) (name : String)
    (mode : Report.OutputMode) : outputMode configPath name = .ok mode ↔ mode.name = name := by
  rw [outputMode, ← ofName?_eq_some_iff]
  cases Report.OutputMode.ofName? name with
  | none => exact ⟨nofun, nofun⟩
  | some other => simp

theorem outputMode_eq_error_iff (configPath : Option RawText) (name : String)
    (error : Error) :
    outputMode configPath name = .error error ↔ (name ≠ "human" ∧ name ≠ "json") ∧
      error = .config (configPath.getD []) (.outputMode name) := by
  rw [outputMode, ← ofName?_eq_none_iff]
  cases Report.OutputMode.ofName? name with
  | none => simp [eq_comm]
  | some mode => simp

def assemble (overrides : Overrides) (config : Config) (root : RawText)
    (configPath : Option RawText) (output : Report.OutputMode) (rules : List RuleSpec) :
    Settings where
  root := root
  configPath := configPath
  output := output
  rules := rules
  includes := prefer overrides.includes config.includes
  excludes := prefer overrides.excludes config.excludes
  defaultExcludes := (overrides.defaultExcludes <|> config.defaultExcludes).getD true
  threads := overrides.threads <|> config.threads

theorem located_iff (root : RawText) (configPath : Option RawText) :
    Located tree base here overrides root configPath ↔
      (overrides.root.map Text.raw).getD (Config.detectRoot tree base here) = root ∧
        configPath = (overrides.config.map Text.raw <|> Config.find? tree base root) := by
  rw [← eq_firstGiven_two, ← firstGiven_two]
  exact ⟨fun located => ⟨located.1, located.2⟩, fun parts => ⟨parts.1, parts.2⟩⟩

variable (tree base here overrides) in
theorem exists_located : ∃ root configPath, Located tree base here overrides root configPath :=
  ⟨_, _, (located_iff _ _).mpr ⟨rfl, rfl⟩⟩

theorem resolve_eq (root : RawText) (configPath : Option RawText)
    (located : Located tree base here overrides root configPath) :
    resolve tree base here overrides =
      configOf tree base configPath >>= fun config =>
        outputMode configPath ((overrides.output <|> config.output).getD "human") >>=
          fun output => rulesOf overrides config >>= fun rules =>
            if rules.isEmpty then .error .noRules
            else .ok (assemble overrides config root configPath output rules) := by
  obtain ⟨rootFrom, configFrom⟩ := (located_iff root configPath).mp located
  subst rootFrom configFrom
  rfl

theorem sources_iff (root : RawText) (configPath : Option RawText) (config : Config)
    (located : Located tree base here overrides root configPath) :
    configOf tree base configPath = .ok config ↔
      Sources tree base here overrides root configPath config := by
  rw [configOf_eq_ok_iff]
  exact ⟨fun loaded => ⟨located, loaded⟩, Sources.loaded⟩

theorem asksOutput_iff (config : Config) (name : String) :
    AsksOutput overrides config name ↔
      (overrides.output <|> config.output).getD "human" = name :=
  eq_firstGiven_three overrides.output config.output "human" name

theorem settled_assemble (config : Config) (root : RawText) (configPath : Option RawText)
    (output : Report.OutputMode) (rules : List RuleSpec)
    (sources : Sources tree base here overrides root configPath config)
    (asked : AsksOutput overrides config output.name)
    (found : rulesOf overrides config = .ok rules) (someRule : rules ≠ []) :
    Settled tree base here overrides config
      (assemble overrides config root configPath output rules) where
  sources := sources
  output := asked
  includes := (eq_firstGiven_list _ _ _).mpr rfl
  excludes := (eq_firstGiven_list _ _ _).mpr rfl
  defaultExcludes := (eq_firstGiven_three _ _ _ _).mpr rfl
  threads := (firstGiven_two _ _).symm
  rules := (rulesOf_eq_ok_iff config rules).mp found
  someRule := someRule

theorem assemble_of_settled (config : Config) (settings : Settings)
    (settled : Settled tree base here overrides config settings) :
    assemble overrides config settings.root settings.configPath settings.output settings.rules =
      settings := by
  have includes := (eq_firstGiven_list _ _ _).mp settled.includes
  have excludes := (eq_firstGiven_list _ _ _).mp settled.excludes
  have defaults := (eq_firstGiven_three _ _ _ _).mp settled.defaultExcludes
  have threads := (firstGiven_two _ _).symm.trans settled.threads.symm
  rw [assemble, includes, excludes, defaults, threads]

theorem resolve_of_sources (root : RawText) (configPath : Option RawText) (config : Config)
    (sources : Sources tree base here overrides root configPath config) (name : String)
    (asked : AsksOutput overrides config name) :
    resolve tree base here overrides =
      outputMode configPath name >>= fun output => rulesOf overrides config >>= fun rules =>
        if rules.isEmpty then .error .noRules
        else .ok (assemble overrides config root configPath output rules) := by
  have found := (sources_iff root configPath config sources.located).mpr sources
  have named := (asksOutput_iff config name).mp asked
  subst named
  rw [resolve_eq root configPath sources.located, found]
  rfl

theorem resolve_of_output (root : RawText) (configPath : Option RawText) (config : Config)
    (sources : Sources tree base here overrides root configPath config)
    (output : Report.OutputMode) (asked : AsksOutput overrides config output.name) :
    resolve tree base here overrides =
      rulesOf overrides config >>= fun rules =>
        if rules.isEmpty then .error .noRules
        else .ok (assemble overrides config root configPath output rules) := by
  have found := (outputMode_eq_ok_iff configPath output.name output).mpr rfl
  rw [resolve_of_sources root configPath config sources output.name asked, found]
  rfl

theorem resolve_of_settled (config : Config) (settings : Settings)
    (settled : Settled tree base here overrides config settings) :
    resolve tree base here overrides = .ok settings := by
  have found := (rulesOf_eq_ok_iff config settings.rules).mpr settled.rules
  rw [resolve_of_output _ _ config settled.sources settings.output settled.output]
  apply (bind_eq_ok_iff _ _ _).mpr
  refine ⟨settings.rules, found, ?_⟩
  rw [if_neg (by simpa using settled.someRule), assemble_of_settled config settings settled]

theorem resolve_of_refused (error : Error) (refused : Refused tree base here overrides error) :
    resolve tree base here overrides = .error error := by
  cases refused with
  | config root path error located loads =>
    rw [resolve_eq root _ located]
    apply (bind_eq_error_iff _ _ _).mpr
    exact .inl ((configOf_eq_error_iff _ error).mpr ⟨path, rfl, loads⟩)
  | output root configPath config name sources asked notHuman notJson =>
    rw [resolve_of_sources root configPath config sources name asked]
    apply (bind_eq_error_iff _ _ _).mpr
    exact .inl ((outputMode_eq_error_iff _ _ _).mpr ⟨⟨notHuman, notJson⟩, rfl⟩)
  | rules root configPath config mode error sources asked failure =>
    rw [resolve_of_output root configPath config sources mode asked]
    apply (bind_eq_error_iff _ _ _).mpr
    exact .inl ((rulesOf_eq_error_iff config error).mpr failure)
  | noRules root configPath config mode sources asked preset own =>
    have found : rulesOf overrides config = .ok [] :=
      (rulesOf_eq_ok_iff config []).mpr ⟨[], [], preset, own, rfl⟩
    rw [resolve_of_output root configPath config sources mode asked, found]
    rfl

theorem settled_of_resolve (settings : Settings)
    (resolved : resolve tree base here overrides = .ok settings) :
    ∃ config, Settled tree base here overrides config settings := by
  obtain ⟨root, configPath, located⟩ := exists_located tree base here overrides
  rw [resolve_eq root configPath located] at resolved
  obtain ⟨config, loaded, resolved⟩ := (bind_eq_ok_iff _ _ _).mp resolved
  obtain ⟨output, named, resolved⟩ := (bind_eq_ok_iff _ _ _).mp resolved
  obtain ⟨rules, found, resolved⟩ := (bind_eq_ok_iff _ _ _).mp resolved
  have sources := (sources_iff root configPath config located).mp loaded
  have asked := (asksOutput_iff config output.name).mpr ((outputMode_eq_ok_iff _ _ _).mp named).symm
  split at resolved
  · cases resolved
  · rename_i some
    injection resolved with same
    refine ⟨config, same ▸ ?_⟩
    exact settled_assemble config root configPath output rules sources asked found
      (by simpa using some)

theorem refused_of_resolve (error : Error)
    (failed : resolve tree base here overrides = .error error) :
    Refused tree base here overrides error := by
  obtain ⟨root, configPath, located⟩ := exists_located tree base here overrides
  rw [resolve_eq root configPath located] at failed
  rcases (bind_eq_error_iff _ _ _).mp failed with unread | ⟨config, loaded, failed⟩
  · obtain ⟨path, same, loads⟩ := (configOf_eq_error_iff _ _).mp unread
    subst same
    exact .config root path error located loads
  have sources := (sources_iff root configPath config located).mp loaded
  rcases (bind_eq_error_iff _ _ _).mp failed with unnamed | ⟨output, named, failed⟩
  · obtain ⟨⟨notHuman, notJson⟩, same⟩ := (outputMode_eq_error_iff _ _ _).mp unnamed
    subst same
    exact .output root configPath config _ sources ((asksOutput_iff config _).mpr rfl) notHuman
      notJson
  have asked := (asksOutput_iff config output.name).mpr ((outputMode_eq_ok_iff _ _ _).mp named).symm
  rcases (bind_eq_error_iff _ _ _).mp failed with unruled | ⟨rules, found, failed⟩
  · exact .rules root configPath config output error sources asked
      ((rulesOf_eq_error_iff config error).mp unruled)
  split at failed
  · rename_i none
    injection failed with same
    subst same
    obtain ⟨preset, own, named, written, parts⟩ := (rulesOf_eq_ok_iff config rules).mp found
    rw [List.isEmpty_iff.mp none, List.nil_eq_append_iff] at parts
    rcases parts with ⟨rfl, rfl⟩
    exact .noRules root configPath config output sources asked named written
  · cases failed

/-- Where two command lines agree, so do the settings. -/
structure Agree (overrides others : Overrides) (settings other : Settings) : Prop where
  root : other.root = settings.root
  configPath : other.configPath = settings.configPath
  output : others.output = overrides.output → other.output = settings.output
  includes : others.includes = overrides.includes → other.includes = settings.includes
  excludes : others.excludes = overrides.excludes → other.excludes = settings.excludes
  defaultExcludes : others.defaultExcludes = overrides.defaultExcludes →
    other.defaultExcludes = settings.defaultExcludes
  threads : others.threads = overrides.threads → other.threads = settings.threads
  rules : others.preset = overrides.preset → others.rules = overrides.rules →
    other.rules = settings.rules

theorem sources_unique (others : Overrides) (root otherRoot : RawText)
    (configPath otherPath : Option RawText) (config otherConfig : Config)
    (sameRoot : others.root = overrides.root) (sameConfig : others.config = overrides.config)
    (sources : Sources tree base here overrides root configPath config)
    (otherSources : Sources tree base here others otherRoot otherPath otherConfig) :
    otherRoot = root ∧ otherPath = configPath ∧ otherConfig = config := by
  have located := (located_iff root configPath).mp sources.located
  have found := (located_iff otherRoot otherPath).mp otherSources.located
  rw [sameRoot, located.1] at found
  obtain ⟨roots, paths⟩ := found
  subst roots
  rw [sameConfig, ← located.2] at paths
  subst paths
  have loaded := (configOf_eq_ok_iff _ config).mpr sources.loaded
  have read := (configOf_eq_ok_iff _ otherConfig).mpr otherSources.loaded
  rw [loaded] at read
  injection read with same
  exact ⟨rfl, rfl, same.symm⟩

theorem rules_unique (others : Overrides) (config : Config) (rules otherRules : List RuleSpec)
    (samePreset : others.preset = overrides.preset) (sameRules : others.rules = overrides.rules)
    (found : rulesOf overrides config = .ok rules)
    (otherFound : rulesOf others config = .ok otherRules) : otherRules = rules := by
  have same : rulesOf others config = rulesOf overrides config := by
    simp only [rulesOf, samePreset, sameRules]
  rw [same, found] at otherFound
  exact (Except.ok.inj otherFound).symm

theorem Settled.agree (others : Overrides) (config otherConfig : Config)
    (settings other : Settings) (sameRoot : others.root = overrides.root)
    (sameConfig : others.config = overrides.config)
    (settled : Settled tree base here overrides config settings)
    (otherSettled : Settled tree base here others otherConfig other) :
    Agree overrides others settings other := by
  obtain ⟨roots, paths, configs⟩ := sources_unique others _ _ _ _ _ _ sameRoot sameConfig
    settled.sources otherSettled.sources
  subst configs
  refine ⟨roots, paths, ?_, ?_, ?_, ?_, ?_, ?_⟩
  · intro same
    have asked := settled.output
    have otherAsked := otherSettled.output
    rw [AsksOutput, same] at otherAsked
    have names := Option.some.inj (otherAsked.trans asked.symm)
    have named := (ofName?_eq_some_iff _ other.output).mpr rfl
    rw [names, (ofName?_eq_some_iff _ settings.output).mpr rfl] at named
    exact (Option.some.inj named).symm
  · intro same
    have given := otherSettled.includes
    rw [same, ← settled.includes] at given
    exact Option.some.inj given
  · intro same
    have given := otherSettled.excludes
    rw [same, ← settled.excludes] at given
    exact Option.some.inj given
  · intro same
    have given := otherSettled.defaultExcludes
    rw [same, ← settled.defaultExcludes] at given
    exact Option.some.inj given
  · intro same
    rw [otherSettled.threads, same, ← settled.threads]
  · intro samePreset sameRules
    exact rules_unique others otherConfig _ _ samePreset sameRules
      ((rulesOf_eq_ok_iff _ _).mpr settled.rules) ((rulesOf_eq_ok_iff _ _).mpr otherSettled.rules)

/-- Settings are taken field by field from the first place that gives them, or else the first thing
that goes wrong is the error. So the output mode is always a known one, there is always a rule, and
what is changed on the command line changes only what it is about. -/
theorem resolve_by_precedence (tree : FileTree) (base : Location) (here : RawText)
    (overrides : Overrides) :
    (∀ settings, resolve tree base here overrides = .ok settings ↔
        ∃ config, Settled tree base here overrides config settings) ∧
      (∀ error, resolve tree base here overrides = .error error ↔
        Refused tree base here overrides error) ∧
      (∀ settings, resolve tree base here overrides = .ok settings →
        (settings.output.name = "human" ∨ settings.output.name = "json") ∧
          settings.rules ≠ []) ∧
      ∀ others settings other, others.root = overrides.root → others.config = overrides.config →
        resolve tree base here overrides = .ok settings →
          resolve tree base here others = .ok other → Agree overrides others settings other := by
  refine ⟨?_, ?_, ?_, ?_⟩
  · intro settings
    constructor
    · exact settled_of_resolve settings
    · intro holds
      rcases holds with ⟨config, settled⟩
      exact resolve_of_settled config settings settled
  · intro error
    exact ⟨refused_of_resolve error, resolve_of_refused error⟩
  · intro settings resolved
    obtain ⟨config, settled⟩ := settled_of_resolve settings resolved
    refine ⟨?_, settled.someRule⟩
    cases settings.output
    · exact .inl rfl
    · exact .inr rfl
  · intro others settings other sameRoot sameConfig resolved otherResolved
    obtain ⟨config, settled⟩ := settled_of_resolve settings resolved
    obtain ⟨otherConfig, otherSettled⟩ := settled_of_resolve other otherResolved
    exact settled.agree others config otherConfig settings other sameRoot sameConfig otherSettled

end Settings

end PatternLint
