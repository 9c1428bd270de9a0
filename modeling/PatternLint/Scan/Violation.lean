namespace PatternLint

/-- One place where a rule matches; lines and columns count from one, columns in characters. -/
structure Violation where
  path : String
  line : Nat
  column : Nat
  matched : String
  message : String
  rule : Nat
deriving BEq, DecidableEq, Repr

namespace Violation

/-- By path, then place, then rule. -/
def precedes (one other : Violation) : Bool :=
  if one.path ≠ other.path then one.path < other.path
  else if one.line ≠ other.line then one.line < other.line
  else if one.column ≠ other.column then one.column < other.column
  else one.rule ≤ other.rule

def sort (violations : List Violation) : List Violation := violations.mergeSort precedes

end Violation

structure Skipped where
  path : String
  reason : String
deriving BEq, DecidableEq, Repr

namespace Skipped

def sort (skipped : List Skipped) : List Skipped :=
  skipped.mergeSort fun one other => one.path = other.path || one.path < other.path

end Skipped

structure ScanResult where
  violations : List Violation := []
  files : Nat := 0
  skipped : List Skipped := []
deriving BEq, DecidableEq, Repr

def ScanResult.isClean (result : ScanResult) : Bool := result.violations.isEmpty

end PatternLint
