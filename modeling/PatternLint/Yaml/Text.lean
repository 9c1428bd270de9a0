import PatternLint.Text.Escape
import PatternLint.Yaml.Cursor

/-!
Scalars with and without quotes. Line ends inside them are folded: a single one is read as a blank,
and of more than one the first is not counted.
-/

namespace PatternLint.Yaml

/-- Blanks and line ends between two stretches of a scalar: the blanks before the first line end,
and the line ends. -/
structure Gap where
  blanks : List Char
  breaks : List Char

namespace Gap

def foldBreaks : List Char → List Char
  | ['\n'] => [' ']
  | '\n' :: more => more
  | breaks => breaks

def text (gap : Gap) : List Char :=
  if gap.breaks.isEmpty then gap.blanks else foldBreaks gap.breaks

end Gap

/-- Reads a gap. In a scalar without quotes no tab may stand left of column `floor`. -/
def readGap (floor : Nat) : (fuel : Nat) → Gap → Reader Gap
  | 0, gap => return gap
  | fuel + 1, gap => do
    let cursor ← get
    match cursor.rest with
    | [] => return gap
    | char :: _ =>
      if isBreak char then
        set cursor.nextLine
        readGap floor fuel { gap with breaks := gap.breaks ++ [breakChar char] }
      else if isBlank char then
        if gap.breaks.isEmpty then
          set (cursor.advance 1)
          readGap floor fuel { gap with blanks := gap.blanks ++ [char] }
        else if char = '\t' ∧ cursor.column < floor then failure
        else
          set (cursor.advance 1)
          readGap floor fuel gap
      else return gap

def isFlowIndicator (char : Char) : Bool := [',', '[', ']', '\x7b', '\x7d'].contains char

def isColonFault (char : Char) : Bool := char = '?' || isFlowIndicator char

def plainRun (brackets : Bool) : List Char → Option (List Char × List Char)
  | [] => some ([], [])
  | char :: rest =>
    if isBlank char || isBreak char || (char = ':' && atGap rest) then some ([], char :: rest)
    else if brackets && char = ':' && rest.head?.any isColonFault then none
    else if brackets && isFlowIndicator char then some ([], char :: rest)
    else do
      let (run, rest) ← plainRun brackets rest
      return (char :: run, rest)

def plainGoesOn (brackets : Bool) (floor : Nat) (cursor : Cursor) : Bool :=
  (brackets || floor ≤ cursor.column) && !cursor.isAtMarker && cursor.rest.head? != some '#'

def plainMore (brackets : Bool) (floor : Nat) : (fuel : Nat) → List Char → Reader (List Char)
  | 0, text => return text
  | fuel + 1, text => do
    let gap ← readGap floor (← get).rest.length ⟨[], []⟩
    let cursor ← get
    let run ← if plainGoesOn brackets floor cursor then plainRun brackets cursor.rest
      else some ([], cursor.rest)
    if run.1.isEmpty then
      if !gap.breaks.isEmpty then Reader.allowKey true
      return text
    else
      set (cursor.advanceTo run.2)
      plainMore brackets floor fuel (text ++ gap.text ++ run.1)

def readPlain (brackets : Bool) (floor : Nat) : Reader (List Char) := do
  Reader.allowKey false
  let cursor ← get
  let (run, rest) ← plainRun brackets cursor.rest
  set (cursor.advanceTo rest)
  plainMore brackets floor cursor.rest.length run

def escapes : List (Char × Char) :=
  [('0', '\x00'), ('a', '\x07'), ('b', '\x08'), ('t', '\t'), ('\t', '\t'), ('n', '\n'),
    ('v', '\x0b'), ('f', '\x0c'), ('r', '\x0d'), ('e', '\x1b'), (' ', ' '), ('"', '"'), ('/', '/'),
    ('\\', '\\'), ('N', '\x85'), ('_', '\xa0'), ('L', '\u2028'), ('P', '\u2029')]

def doubleRun : (fuel : Nat) → List Char → Option (List Char × List Char)
  | 0, _ => none
  | _ + 1, [] => some ([], [])
  | fuel + 1, char :: rest =>
    if char = '"' || isBlank char || isBreak char then some ([], char :: rest)
    else if char = '\\' then
      if rest.head?.any isBreak then some ([], char :: rest)
      else do
        let (char, rest) ← Text.readEscape escapes rest
        let (run, rest) ← doubleRun fuel rest
        return (char :: run, rest)
    else do
      let (run, rest) ← doubleRun fuel rest
      return (char :: run, rest)

def singleRun : List Char → List Char × List Char
  | [] => ([], [])
  | '\'' :: '\'' :: rest =>
    let (run, rest) := singleRun rest
    ('\'' :: run, rest)
  | char :: rest =>
    if char = '\'' || isBlank char || isBreak char then ([], char :: rest)
    else
      let (run, rest) := singleRun rest
      (char :: run, rest)

def quotedRun (quote : Char) (text : List Char) : Option (List Char × List Char) :=
  if quote = '"' then doubleRun (text.length + 1) text else some (singleRun text)

def quotedMore (quote : Char) : (fuel : Nat) → List Char → Reader (List Char)
  | 0, _ => failure
  | fuel + 1, text => do
    let cursor ← get
    Reader.check (!cursor.isAtMarker)
    let (run, rest) ← quotedRun quote cursor.rest
    set (cursor.advanceTo rest)
    match rest with
    | [] => failure
    | char :: _ =>
      if char = quote then
        Reader.advance 1
        return text ++ run
      else if char = '\\' then
        Reader.advance 1
        modify Cursor.nextLine
        let gap ← readGap 0 rest.length ⟨[], ['\n']⟩
        quotedMore quote fuel (text ++ run ++ gap.breaks.drop 1)
      else
        let gap ← readGap 0 rest.length ⟨[], []⟩
        quotedMore quote fuel (text ++ run ++ gap.text)

def readQuoted (quote : Char) : Reader (List Char) := do
  Reader.advance 1
  let text ← quotedMore quote ((← get).rest.length + 1) []
  Reader.allowKey false
  return text

/-- What becomes of the line ends at the end of a block. -/
inductive Chomping where
  | strip
  | clip
  | keep
deriving BEq, DecidableEq, Repr

def chomping? : Char → Option Chomping
  | '-' => some .strip
  | '+' => some .keep
  | _ => none

/-- How far a block is indented beyond what it stands in. -/
def increment? (char : Char) : Option Nat :=
  if '1' ≤ char ∧ char ≤ '9' then some (char.toNat - 48) else none

def blockMarks : List Char → Chomping × Option Nat × List Char
  | [] => (.clip, none, [])
  | char :: rest =>
    match chomping? char, increment? char with
    | some chomping, _ =>
      match rest with
      | [] => (chomping, none, [])
      | next :: after =>
        match increment? next with
        | some increment => (chomping, some increment, after)
        | none => (chomping, none, rest)
    | none, some increment =>
      match rest with
      | [] => (.clip, some increment, [])
      | next :: after =>
        match chomping? next with
        | some chomping => (chomping, some increment, after)
        | none => (.clip, some increment, rest)
    | none, none => (.clip, none, char :: rest)

/-- Steps over indentation and empty lines before the next line of a block. While no `indent` is
known it is all blanks; returns the line ends and the longest indentation met. -/
def blockBreaks (indent : Option Nat) :
    (fuel : Nat) → (longest : Nat) → List Char → Reader (List Char × Nat)
  | 0, longest, breaks => return (breaks, longest)
  | fuel + 1, longest, breaks => do
    let cursor ← get
    match cursor.rest with
    | [] => return (breaks, max longest cursor.column)
    | char :: _ =>
      let inside := indent.all fun indent => cursor.column < indent
      if inside ∧ char = ' ' then
        set (cursor.advance 1)
        blockBreaks indent fuel longest breaks
      else if inside ∧ char = '\t' then failure
      else if isBreak char then
        set cursor.nextLine
        blockBreaks indent fuel (max longest cursor.column) (breaks ++ [breakChar char])
      else return (breaks, max longest cursor.column)

/-- Reads the lines of a block. `before` is the line end of the last line, `breaks` what followed
it, and `spaced` tells whether that line began with a blank. -/
def blockLines (folded : Bool) (chomping : Chomping) (indent : Nat) :
    (fuel : Nat) → (text before breaks : List Char) → (spaced : Bool) → Reader (List Char)
  | 0, _, _, _, _ => failure
  | fuel + 1, text, before, breaks, spaced => do
    let cursor ← get
    match cursor.rest with
    | char :: _ =>
      if cursor.column = indent then
        let blank := isBlank char
        let joined :=
          if folded && before = ['\n'] && !spaced && !blank then
            if breaks.isEmpty then [' '] else []
          else before
        let line := cursor.rest.takeWhile (!isBreak ·)
        let rest := cursor.rest.dropWhile (!isBreak ·)
        set (cursor.advanceTo rest)
        let after := (rest.take 1).map breakChar
        if !rest.isEmpty then modify Cursor.nextLine
        let (more, _) ← blockBreaks (some indent) (rest.length + 1) 0 []
        blockLines folded chomping indent fuel (text ++ joined ++ breaks ++ line) after more blank
      else return finish text before breaks
    | [] => return finish text before breaks
where
  finish (text before breaks : List Char) : List Char :=
    match chomping with
    | .strip => text
    | .clip => text ++ before
    | .keep => text ++ before ++ breaks

def readBlock (folded : Bool) (floor : Nat) : Reader (List Char) := do
  Reader.advance 1
  let cursor ← get
  let (chomping, increment, rest) := blockMarks cursor.rest
  set (cursor.advanceTo rest)
  let rest := rest.dropWhile isBlank
  let rest := if rest.head? = some '#' then rest.dropWhile (!isBreak ·) else rest
  modify fun cursor => cursor.advanceTo rest
  match rest with
  | [] => pure ()
  | char :: _ =>
    Reader.check (isBreak char)
    modify Cursor.nextLine
  Reader.allowKey true
  let known := increment.map fun increment => floor - 1 + increment
  let (breaks, longest) ← blockBreaks known (rest.length + 1) 0 []
  let indent := known.getD (max longest (max floor 1))
  blockLines folded chomping indent (rest.length + 1) [] [] breaks false

end PatternLint.Yaml
