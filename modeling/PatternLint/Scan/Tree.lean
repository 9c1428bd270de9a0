import PatternLint.FileTree.Walk
import PatternLint.PathFilter
import PatternLint.Scan.Text

/-!
Scanning a directory: the files that pass the filter are read one by one and the findings put in
order. A file that cannot be read as text is skipped; only an unusable root, or workers that cannot
be had, are an error.
-/

namespace PatternLint.Scan

structure Options where
  threads : Option Nat := none
  followLinks : Bool := false
deriving BEq, DecidableEq, Repr

/-- A file to be scanned: its path, and the path below the root under which it is reported. -/
structure Candidate where
  path : RawText
  shown : String
deriving BEq, DecidableEq, Repr

def shownPath (root path : RawText) : String := String.ofList (Path.relative root path)

section

variable (tree : FileTree) (base : Location) (root : RawText) (filter : PathFilter)
  (followLinks : Bool)

def walk : List FileTree.Met :=
  tree.walk base followLinks (fun path => filter.prunesDir (Text.raw (shownPath root path))) [root]
    root

def candidates : List Candidate :=
  (((walk tree base root filter followLinks).filterMap FileTree.Met.file?).map fun path =>
    ⟨path, shownPath root path⟩).filter fun candidate =>
      filter.isIncluded (Text.raw candidate.shown)

end

inductive ReadFault where
  | io (fault : IoFault)
  | encoding
deriving BEq, DecidableEq, Repr

def ReadFault.toError (path : RawText) : ReadFault → Error
  | io fault => .io path fault
  | encoding => .encoding path

def readText (tree : FileTree) (base : Location) (path : RawText) : Except ReadFault String :=
  match tree.read base path with
  | .error fault => .error (.io fault)
  | .ok bytes =>
    match String.fromUTF8? bytes with
    | some text => .ok text
    | none => .error .encoding

inductive Outcome where
  | scanned (candidate : Candidate) (violations : List Violation)
  | skipped (candidate : Candidate) (fault : ReadFault)

def Outcome.path : Outcome → String
  | scanned candidate _ => candidate.shown
  | skipped candidate _ => candidate.shown

def skipReason : ReadFault → String
  | .encoding => "not valid UTF-8"
  | .io fault => fault.message

def outcome (tree : FileTree) (base : Location) (rules : RuleSet) (candidate : Candidate) :
    Outcome :=
  match readText tree base candidate.path with
  | .ok text => .scanned candidate (textViolations candidate.shown rules text)
  | .error fault => .skipped candidate fault

def Outcome.violations : Outcome → List Violation
  | scanned _ violations => violations
  | skipped .. => []

def Outcome.skipped? : Outcome → Option Skipped
  | scanned .. => none
  | skipped candidate fault => some ⟨candidate.shown, skipReason fault⟩

def Outcome.isScanned : Outcome → Bool
  | scanned .. => true
  | skipped .. => false

def merge (outcomes : List Outcome) : ScanResult where
  violations := Violation.sort (outcomes.flatMap Outcome.violations)
  files := (outcomes.filter Outcome.isScanned).length
  skipped := Skipped.sort (outcomes.filterMap Outcome.skipped?)

/-- Those who share the work of a scan. A pool of so many threads is made, or there is a text that
says why not; in any case what comes of the work is in the order of the list. -/
structure Workers where
  makePool : (threads : Nat) → Except String Unit
  share : (pool : Option Nat) → (Candidate → Outcome) → List Candidate → List Outcome
  inOrder : ∀ pool work list, share pool work list = list.map work

def Workers.tasks : Workers where
  makePool _ := .ok ()
  share _ work list := (list.map fun candidate => Task.spawn fun _ => work candidate).map Task.get
  inOrder _ work list := by
    rw [List.map_map]
    rfl

/-- Without a number of threads that is more than none, those that are there anyway do the work. -/
def Workers.outcomes (workers : Workers) (threads : Option Nat) (work : Candidate → Outcome)
    (list : List Candidate) : Except Error (List Outcome) :=
  match threads with
  | some (more + 1) =>
    match workers.makePool (more + 1) with
    | .ok () => .ok (workers.share (some (more + 1)) work list)
    | .error reason => .error (.threadPool reason)
  | _ => .ok (workers.share none work list)

def outcomes (tree : FileTree) (base : Location) (workers : Workers) (root : RawText)
    (filter : PathFilter) (rules : RuleSet) (options : Options) : Except Error (List Outcome) :=
  match tree.resolveDirectory base root with
  | .error fault => .error (.io root fault)
  | .ok _ =>
    workers.outcomes options.threads (outcome tree base rules)
      (candidates tree base root filter options.followLinks)

def scan (tree : FileTree) (base : Location) (workers : Workers) (root : RawText)
    (filter : PathFilter) (rules : RuleSet) (options : Options) : Except Error ScanResult := do
  return merge (← outcomes tree base workers root filter rules options)

end PatternLint.Scan
