import PatternLint.Regex.Program
import Std.Data.HashSet

/-!
Running a program over a line. A search goes depth first in order of preference and never looks at
an instruction twice at the same place, so its work is bounded by the number of instructions times
the number of places.
-/

namespace PatternLint.Regex

structure Thread where
  instr : Nat
  place : Nat

structure Stretch where
  start : Nat
  stop : Nat
deriving BEq, DecidableEq, Repr

namespace Program

def successors (instr : Instr) (line : Array Char) (place : Nat) : List Thread :=
  match instr with
  | .take set next =>
    match after? line place with
    | some char => if set.contains char then [⟨next, place + 1⟩] else []
    | none => []
  | .look look next => if look.holds line place then [⟨next, place⟩] else []
  | .split preferred other => [⟨preferred, place⟩, ⟨other, place⟩]
  | .jump next => [⟨next, place⟩]
  | .accept => []

def key (line : Array Char) (thread : Thread) : Nat :=
  thread.instr * (line.size + 1) + thread.place

def explore (program : Program) (line : Array Char) :
    (fuel : Nat) → (seen : Std.HashSet Nat) → (waiting : List Thread) →
      Option Nat × Std.HashSet Nat
  | 0, seen, _ => (none, seen)
  | _, seen, [] => (none, seen)
  | fuel + 1, seen, thread :: waiting =>
    if seen.contains (key line thread) then explore program line fuel seen waiting
    else
      match program[thread.instr]? with
      | none => explore program line fuel seen waiting
      | some .accept => (some thread.place, seen)
      | some instr =>
        explore program line fuel (seen.insert (key line thread))
          (successors instr line thread.place ++ waiting)

/-- Every thread is followed once and has at most two successors. -/
def fuel (program : Program) (line : Array Char) : Nat := 2 * program.size * (line.size + 1) + 2

def exploreAt (program : Program) (line : Array Char) (seen : Std.HashSet Nat) (start : Nat) :
    Option Nat × Std.HashSet Nat :=
  explore program line (fuel program line) seen [⟨0, start⟩]

/-- Tries the next `count` places from `start` on. Threads seen from an earlier place led nowhere,
so they are not followed again. -/
def searchFrom (program : Program) (line : Array Char) :
    (count start : Nat) → Std.HashSet Nat → Option Stretch
  | 0, _, _ => none
  | count + 1, start, seen =>
    match exploreAt program line seen start with
    | (some stop, _) => some ⟨start, stop⟩
    | (none, seen) => searchFrom program line count (start + 1) seen

def search (program : Program) (line : Array Char) (start : Nat) : Option Stretch :=
  searchFrom program line (line.size + 1 - start) start {}

def matchesAt (program : Program) (line : Array Char) (start : Nat) : Bool :=
  (exploreAt program line {} start).1.isSome

/-- Matches one after the other: the search goes on where the last match stopped, and an empty
match there is passed over. -/
def successive (program : Program) (line : Array Char) :
    (fuel : Nat) → (start : Nat) → (last : Option Nat) → List Stretch
  | 0, _, _ => []
  | fuel + 1, start, last =>
    match search program line start with
    | none => []
    | some found =>
      if found.start = found.stop ∧ last = some found.stop then
        successive program line fuel (start + 1) last
      else found :: successive program line fuel found.stop (some found.stop)

/-- All successive matches on a line; at each place the search may stop twice. -/
def findAll (program : Program) (line : Array Char) : List Stretch :=
  successive program line (2 * line.size + 3) 0 none

end Program

end PatternLint.Regex
