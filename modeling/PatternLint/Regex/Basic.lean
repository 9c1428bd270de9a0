import PatternLint.Regex.Footprint
import PatternLint.Regex.Interpretation
import PatternLint.Regex.Search

namespace PatternLint

structure Regex where
  pattern : String
  expr : Regex.Expr
  program : Regex.Program
  program_eq : program = Regex.Program.ofExpr expr

namespace Regex

def ofExpr (pattern : String) (expr : Expr) : Regex :=
  ⟨pattern, expr, Program.ofExpr expr, rfl⟩

def compile (pattern : String) : Except Fault Regex := do
  let expr ← Expr.ofPattern pattern
  if Footprint.ofPattern expr > sizeLimit then throw (.tooLarge sizeLimit)
  return ofExpr pattern expr

def findAll (regex : Regex) (line : Array Char) : List Stretch := regex.program.findAll line

/-- Whether a match begins exactly at `start`, the whole line being in view. -/
def matchesAt (regex : Regex) (line : Array Char) (start : Nat) : Bool :=
  regex.program.matchesAt line start

end Regex

end PatternLint
