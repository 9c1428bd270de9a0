import PatternLint.Proofs.Run.Failure
import PatternLint.Proofs.Settings.Precedence

namespace PatternLint.Run

def told (colours : Bool) (lines : List (Report.Notice × String)) : String :=
  String.join (lines.map fun line => line.1.line colours line.2)

def bare : Surroundings where
  tree := .empty
  base := []
  here := [Path.slash]
  workers := .tasks
  texts := ⟨fun _ _ => "", fun _ => ""⟩
  coloursOff := true
  logFilter := none

end PatternLint.Run
