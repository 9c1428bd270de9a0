import PatternLint.Settings

/-!
The arguments of the command line, read from left to right. An option takes its value from behind an
equals sign or from the next argument; such a value is settled only when another flag or the end is
reached.
-/

namespace PatternLint.CommandLine

inductive Refusal where
  | unknownArgument
  | invalidValue
  | valueValidation
  | argumentConflict
  | tooManyValues
  | help
  | version
deriving BEq, DecidableEq, Repr

def Refusal.exitCode : Refusal → Nat
  | help => 0
  | version => 0
  | _ => Report.failureCode

inductive ValueFlag where
  | root
  | config
  | includeGlob
  | excludeGlob
  | rule
  | preset
  | output
  | threads
deriving BEq, DecidableEq, Repr

inductive Switch where
  | defaultExcludes
  | noDefaultExcludes
  | verbose
  | help
  | version
deriving BEq, DecidableEq, Repr

def valueFlags : List (String × ValueFlag) :=
  [("root", .root), ("config", .config), ("include", .includeGlob), ("exclude", .excludeGlob),
    ("rule", .rule), ("preset", .preset), ("output", .output), ("threads", .threads)]

def switches : List (String × Switch) :=
  [("default-excludes", .defaultExcludes), ("no-default-excludes", .noDefaultExcludes),
    ("verbose", .verbose), ("help", .help), ("version", .version)]

def letters : List (Char × Switch) := [('v', .verbose), ('h', .help), ('V', .version)]

/-- What has been given so far; `pending` is the last flag whose value stands apart, and its value
once it is there. -/
structure Given where
  overrides : Overrides := {}
  defaultExcludes : Bool := false
  noDefaultExcludes : Bool := false
  verbosity : Nat := 0
  pending : Option (ValueFlag × Option String) := none

def verbosityLimit : Nat := 255

def threads? (text : List Char) : Option Nat :=
  let digits := match text with
    | '+' :: rest => rest
    | _ => text
  (Text.natural? 10 digits).filter (· < Config.countLimit)

def once {α : Type} (given : Option α) (value : α) : Except Refusal (Option α) :=
  if given.isSome then .error .argumentConflict else .ok (some value)

def path (given : Option String) (value : String) : Except Refusal (Option String) := do
  let value ← once given value
  if value = some "" then throw .invalidValue
  return value

namespace Given

def put (given : Given) (flag : ValueFlag) (value : String) : Except Refusal Given := do
  let old := given.overrides
  let new ← match flag with
    | .root => do pure { old with root := ← path old.root value }
    | .config => do pure { old with config := ← path old.config value }
    | .includeGlob => pure { old with includes := old.includes ++ [value] }
    | .excludeGlob => pure { old with excludes := old.excludes ++ [value] }
    | .rule => pure { old with rules := old.rules ++ [value] }
    | .preset => do pure { old with preset := ← once old.preset value }
    | .output => do pure { old with output := ← once old.output value }
    | .threads => do
      if old.threads.isSome then throw .argumentConflict
      match threads? value.toList with
      | some number => pure { old with threads := some number }
      | none => throw .valueValidation
  return { given with overrides := new }

def settle (given : Given) : Except Refusal Given :=
  match given.pending with
  | none => .ok given
  | some (_, none) => .error .invalidValue
  | some (flag, some value) => { given with pending := none }.put flag value

def turn (given : Given) (switch : Switch) : Except Refusal Given := do
  let given ← given.settle
  match switch with
  | .defaultExcludes =>
    if given.defaultExcludes then throw .argumentConflict
    return { given with defaultExcludes := true }
  | .noDefaultExcludes =>
    if given.noDefaultExcludes then throw .argumentConflict
    return { given with noDefaultExcludes := true }
  | .verbose => return { given with verbosity := min (given.verbosity + 1) verbosityLimit }
  | .help => throw .help
  | .version => throw .version

def takeLong (given : Given) (body : List Char) : Except Refusal Given := do
  let name := String.ofList (body.takeWhile (· ≠ '='))
  let value? := match body.dropWhile (· ≠ '=') with
    | [] => none
    | _ :: value => some (String.ofList value)
  match valueFlags.lookup name, switches.lookup name with
  | some flag, _ =>
    let given ← given.settle
    match value? with
    | some value => given.put flag value
    | none => return { given with pending := some (flag, none) }
  | none, some switch => if value?.isSome then throw .tooManyValues else given.turn switch
  | none, none => throw .unknownArgument

def takeShort (given : Given) : List Char → Except Refusal Given
  | [] => .ok given
  | letter :: rest =>
    match letters.lookup letter with
    | some switch => do takeShort (← given.turn switch) rest
    | none => .error .unknownArgument

/-- An argument that is no flag can only be the value of the flag before it. -/
def takeValue (given : Given) (value : String) : Except Refusal Given :=
  match given.pending with
  | some (flag, none) => .ok { given with pending := some (flag, some value) }
  | _ => .error .unknownArgument

def take (given : Given) (argument : String) : Except Refusal Given :=
  match argument.toList with
  | '-' :: '-' :: body => given.takeLong body
  | '-' :: letter :: rest => given.takeShort (letter :: rest)
  | _ => given.takeValue argument

/-- Takes all arguments; behind two dashes alone nothing may follow. -/
def takeAll (given : Given) : List String → Except Refusal Given
  | [] => .ok given
  | argument :: rest =>
    if argument = "--" then if rest.isEmpty then .ok given else .error .unknownArgument
    else do takeAll (← given.take argument) rest

end Given

structure Arguments where
  overrides : Overrides
  verbosity : Nat

def readArguments (arguments : List String) : Except Refusal Arguments := do
  let given ← Given.takeAll {} arguments
  let given ← given.settle
  if given.defaultExcludes ∧ given.noDefaultExcludes then throw .argumentConflict
  let defaultExcludes :=
    if given.defaultExcludes then some true
    else if given.noDefaultExcludes then some false
    else none
  return ⟨{ given.overrides with defaultExcludes }, given.verbosity⟩

end PatternLint.CommandLine
