import PatternLint.CommandLine.Arguments
import PatternLint.Log
import PatternLint.Scan.Tree

namespace PatternLint

/-- What a run takes from its surroundings: the files, the current directory and its path, those who
share its work, what parsers say, whether colours are switched off, and the text of a log filter. -/
structure Surroundings where
  tree : FileTree
  base : Location
  here : RawText
  workers : Scan.Workers
  texts : ParserTexts
  coloursOff : Bool
  logFilter : Option String

/-- What a run leaves: the log is apart from the notices on the error stream. -/
structure Transcript where
  exitCode : Nat
  output : String
  notices : String
  log : List LogRecord

namespace Run

def programSource : String := "lintcheck"

def scannerSource : String := "lintcheck::scanner"

def filterOf (settings : Settings) : Except Error PathFilter :=
  if settings.defaultExcludes then
    PathFilter.compileWithDefaults settings.includes settings.excludes
  else PathFilter.compile settings.includes settings.excludes

def inputsOf (settings : Settings) : Except Error (PathFilter × RuleSet) := do
  let filter ← filterOf settings
  let rules ← RuleSet.compile settings.rules
  return (filter, rules)

def inputsRecord (filter : PathFilter) (rules : RuleSet) : LogRecord where
  source := programSource
  level := .debug
  text := "resolved scan inputs include=" ++ Text.quoteList (filter.includes.map Glob.text) ++
    " exclude=" ++ Text.quoteList (filter.excludes.map Glob.text) ++
    " rules=" ++ toString rules.rules.length

def collectedRecord (count : Nat) : LogRecord where
  source := scannerSource
  level := .debug
  text := "collected candidate files count=" ++ toString count

def hinderedRecord (hindrance : FileTree.Hindrance) : LogRecord where
  source := scannerSource
  level := .warn
  text := "skipping unreadable entry: " ++ hindrance.message

def outcomeRecord (texts : ParserTexts) : Scan.Outcome → LogRecord
  | .scanned candidate _ => ⟨scannerSource, .debug, "scanning path=" ++ candidate.shown⟩
  | .skipped candidate fault =>
    ⟨scannerSource, .warn, "skipping " ++ candidate.shown ++ ": " ++
      (fault.toError candidate.path).message texts⟩

def finishedRecord (result : ScanResult) : LogRecord where
  source := scannerSource
  level := .info
  text := "scan finished files=" ++ toString result.files ++
    " violations=" ++ toString result.violations.length ++
    " skipped=" ++ toString result.skipped.length

section

variable (surroundings : Surroundings)

def walkRecords (root : RawText) (filter : PathFilter) (followLinks : Bool) : List LogRecord :=
  let tree := surroundings.tree
  let base := surroundings.base
  ((Scan.walk tree base root filter followLinks).filterMap FileTree.Met.hindrance?).map
      hinderedRecord ++
    [collectedRecord (Scan.candidates tree base root filter followLinks).length]

/-- What is logged of a scan. Without a root nothing is, and without workers only the walk. -/
def scanRecords (root : RawText) (filter : PathFilter) (followLinks : Bool) :
    Except Error (List Scan.Outcome) → List LogRecord
  | .error (.threadPool _) => walkRecords surroundings root filter followLinks
  | .error _ => []
  | .ok outcomes =>
    walkRecords surroundings root filter followLinks ++
      outcomes.map (outcomeRecord surroundings.texts) ++ [finishedRecord (Scan.merge outcomes)]

def scan (settings : Settings) : List LogRecord × Except Error ScanResult :=
  match inputsOf settings with
  | .error error => ([], .error error)
  | .ok (filter, rules) =>
    let options : Scan.Options := { threads := settings.threads }
    let outcomes := Scan.outcomes surroundings.tree surroundings.base surroundings.workers
      settings.root filter rules options
    (inputsRecord filter rules ::
        scanRecords surroundings settings.root filter options.followLinks outcomes,
      outcomes.map Scan.merge)

end

/-- The filter that is asked for, or the one that follows from the verbosity. -/
def logFilter (asked : Option String) (verbosity : Nat) : LogFilter :=
  (asked.bind LogFilter.ofText?).getD [⟨programSource, LogLevel.ofVerbosity verbosity⟩]

def startNotice (settings : Settings) : String :=
  "Scanning " ++ Text.display settings.root ++ " with " ++ toString settings.rules.length ++
    " rule(s)"

def skippedNotice (result : ScanResult) : String :=
  toString result.skipped.length ++ " file(s) skipped (not readable as text)"

def failure (surroundings : Surroundings) (notices : String) (log : List LogRecord)
    (error : Error) : Transcript :=
  let line := Report.Notice.error.line (!surroundings.coloursOff) (error.message surroundings.texts)
  ⟨Report.failureCode, "", notices ++ line, log⟩

/-- Notices about a finished run; a report for programs has none. -/
def endNotices (colours : Bool) (settings : Settings) (result : ScanResult) : String :=
  if settings.output = .human then
    (if settings.configPath.isNone then
      Report.Notice.note.line colours "No lintcheck.toml found; using defaults." else "") ++
    (if result.skipped.isEmpty then ""
      else Report.Notice.warning.line colours (skippedNotice result))
  else ""

def perform (surroundings : Surroundings) (arguments : CommandLine.Arguments) : Transcript :=
  let colours := !surroundings.coloursOff
  match Settings.resolve surroundings.tree surroundings.base surroundings.here
      arguments.overrides with
  | .error error => failure surroundings "" [] error
  | .ok settings =>
    let started :=
      if settings.output = .human ∧ 0 < arguments.verbosity then
        Report.Notice.info.line colours (startNotice settings)
      else ""
    let (records, outcome) := scan surroundings settings
    let filter := logFilter surroundings.logFilter arguments.verbosity
    let log := records.filter filter.keeps
    match outcome with
    | .error error => failure surroundings started log error
    | .ok result =>
      ⟨Report.exitCode result,
        Report.standardOutput settings.output surroundings.coloursOff result,
        started ++ endNotices colours settings result, log⟩

def run (surroundings : Surroundings) (arguments : List String) :
    Except CommandLine.Refusal Transcript := do
  return perform surroundings (← CommandLine.readArguments arguments)

end Run

end PatternLint
