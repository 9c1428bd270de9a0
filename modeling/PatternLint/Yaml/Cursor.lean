import PatternLint.Yaml.Node

namespace PatternLint.Yaml

def isBreak (char : Char) : Bool :=
  char = '\n' || char = '\x0d' || char = '\x85' || char = '\u2028' || char = '\u2029'

def isBlank (char : Char) : Bool := char = ' ' || char = '\t'

def atGap : List Char → Bool
  | [] => true
  | char :: _ => isBlank char || isBreak char

def breakChar (char : Char) : Char :=
  if char = '\u2028' ∨ char = '\u2029' then char else '\n'

/-- What is left, how many characters are behind, the line and the column, whether a key or an
entry may begin here, the names of nodes, and what the beginnings of tags stand for. -/
structure Cursor where
  rest : List Char
  index : Nat := 0
  line : Nat := 0
  column : Nat := 0
  keyAllowed : Bool := true
  anchors : Anchors := {}
  handles : List (String × String) := []

namespace Cursor

def advance (cursor : Cursor) (count : Nat) : Cursor :=
  { cursor with
    rest := cursor.rest.drop count
    index := cursor.index + count
    column := cursor.column + count }

def advanceTo (cursor : Cursor) (rest : List Char) : Cursor :=
  cursor.advance (cursor.rest.length - rest.length)

def nextLine (cursor : Cursor) : Cursor :=
  let size := match cursor.rest with
    | '\x0d' :: '\n' :: _ => 2
    | _ => 1
  { cursor with
    rest := cursor.rest.drop size
    index := cursor.index + size
    line := cursor.line + 1
    column := 0 }

/-- Steps over blanks, comments and line ends. Tabs are blanks inside brackets, or where no entry
may begin; a line end outside brackets allows one. -/
def toToken (brackets : Bool) : (fuel : Nat) → (comment : Bool) → Cursor → Cursor
  | 0, _, cursor => cursor
  | fuel + 1, comment, cursor =>
    match cursor.rest with
    | [] => cursor
    | char :: _ =>
      if isBreak char then
        let next := cursor.nextLine
        toToken brackets fuel false { next with keyAllowed := next.keyAllowed || !brackets }
      else if comment then toToken brackets fuel true (cursor.advance 1)
      else if char = '#' then toToken brackets fuel true (cursor.advance 1)
      else if char = ' ' ∨ (char = '\t' ∧ (brackets ∨ cursor.keyAllowed = false)) ∨
          (char = '\ufeff' ∧ cursor.column = 0) then
        toToken brackets fuel false (cursor.advance 1)
      else cursor

def isAt (cursor : Cursor) (indicator : Char) : Bool :=
  match cursor.rest with
  | char :: rest => char = indicator && atGap rest
  | [] => false

def isAtMark (cursor : Cursor) (char : Char) : Bool :=
  cursor.column = 0 && cursor.rest.take 3 = [char, char, char] && atGap (cursor.rest.drop 3)

def isAtMarker (cursor : Cursor) : Bool := cursor.isAtMark '-' || cursor.isAtMark '.'

def isAtEnd (cursor : Cursor) : Bool := cursor.rest.isEmpty || cursor.isAtMarker

end Cursor

abbrev Reader := StateT Cursor Option

namespace Reader

def skip (brackets : Bool) : Reader Unit :=
  modify fun cursor => cursor.toToken brackets (cursor.rest.length + 1) false

def advance (count : Nat) : Reader Unit := modify fun cursor => cursor.advance count

def allowKey (allowed : Bool) : Reader Unit :=
  modify fun cursor => { cursor with keyAllowed := allowed }

def check (holds : Bool) : Reader Unit := if holds then pure () else failure

end Reader

end PatternLint.Yaml
