import PatternLint.Config.File
import PatternLint.Report.Basic
import PatternLint.Rule.Preset

/-!
The settings of a run: what is given on the command line goes before the configuration file, and
that before what holds otherwise.
-/

namespace PatternLint

structure Overrides where
  root : Option String := none
  config : Option String := none
  includes : List String := []
  excludes : List String := []
  rules : List String := []
  preset : Option String := none
  defaultExcludes : Option Bool := none
  output : Option String := none
  threads : Option Nat := none
deriving BEq, DecidableEq, Repr

structure Settings where
  root : RawText
  configPath : Option RawText
  output : Report.OutputMode
  includes : List String
  excludes : List String
  defaultExcludes : Bool
  threads : Option Nat
  rules : List RuleSpec

namespace Settings

/-- A list that is given replaces the other one as a whole. -/
def prefer {α : Type} (given other : List α) : List α := if given.isEmpty then other else given

def outputMode (configPath : Option RawText) (name : String) :
    Except Error Report.OutputMode :=
  match Report.OutputMode.ofName? name with
  | some mode => .ok mode
  | none => .error (.config (configPath.getD []) (.outputMode name))

/-- The rules of the preset, then those of the command line or else of the file. -/
def rulesOf (overrides : Overrides) (config : Config) : Except Error (List RuleSpec) := do
  let preset ← ((overrides.preset <|> config.preset).elim (.ok []) RuleSpec.preset)
  let rules ←
    if overrides.rules.isEmpty then .ok config.rules
    else overrides.rules.mapM RuleSpec.ofArgument
  return preset ++ rules

/-- Settles everything; the first thing that cannot be is the error. `here` is the path of the
current directory. -/
def resolve (tree : FileTree) (base : Location) (here : RawText) (overrides : Overrides) :
    Except Error Settings := do
  let root := (overrides.root.map Text.raw).getD (Config.detectRoot tree base here)
  let configPath := (overrides.config.map Text.raw) <|> Config.find? tree base root
  let config ← configPath.elim (.ok {}) (Config.load tree base)
  let output ← outputMode configPath ((overrides.output <|> config.output).getD "human")
  let rules ← rulesOf overrides config
  if rules.isEmpty then throw .noRules
  return {
    root, configPath, output, rules
    includes := prefer overrides.includes config.includes
    excludes := prefer overrides.excludes config.excludes
    defaultExcludes := (overrides.defaultExcludes <|> config.defaultExcludes).getD true
    threads := overrides.threads <|> config.threads }

end Settings

end PatternLint
