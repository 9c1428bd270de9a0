import PatternLint.Report.Human
import PatternLint.Report.Json

namespace PatternLint.Report

inductive OutputMode where
  | human
  | json
deriving BEq, DecidableEq, Repr

def OutputMode.ofName? : String → Option OutputMode
  | "human" => some .human
  | "json" => some .json
  | _ => none

def OutputMode.name : OutputMode → String
  | human => "human"
  | json => "json"

/-- Colours are used unless the report is for programs or they are switched off. -/
def usesColours (coloursOff : Bool) (output : String) : Bool := output != "json" && !coloursOff

def exitCode (result : ScanResult) : Nat := if result.isClean then 0 else 1

def failureCode : Nat := 2

def standardOutput (mode : OutputMode) (coloursOff : Bool) (result : ScanResult) : String :=
  match mode with
  | .json => (resultJson result).render ++ "\n"
  | .human => human (usesColours coloursOff mode.name) result

end PatternLint.Report
