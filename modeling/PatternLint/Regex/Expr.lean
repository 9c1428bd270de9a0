import PatternLint.Unicode.Property

/-!
What a regular expression means: an expression over sets of characters, places in the line,
sequence, choice and repetition, and the relation `Expr.Matches` that says which stretches of a line
it matches. A line is an array of characters; a stretch is given by its two ends.
-/

namespace PatternLint.Regex

/-- A condition on a place between characters, decided by what stands on either side. -/
inductive Look where
  | start
  | stop
  | startLine
  | stopLine
  | startCrlf
  | stopCrlf
  | boundary (unicode : Bool)
  | notBoundary (unicode : Bool)
  | wordStart (unicode : Bool)
  | wordEnd (unicode : Bool)
  | wordStartHalf (unicode : Bool)
  | wordEndHalf (unicode : Bool)
deriving BEq, Repr

inductive Expr where
  | empty
  | set (set : CodeSet)
  | look (look : Look)
  | seq (first second : Expr)
  | alt (preferred other : Expr)
  | rep (least : Nat) (most : Option Nat) (greedy : Bool) (body : Expr)
  | capture (body : Expr)
deriving BEq, Repr

def isAsciiWord (char : Char) : Bool := char.isAlphanum || char == '_'

def isWord (unicode : Bool) (char : Char) : Bool :=
  if unicode then isAsciiWord char || (0x80 ≤ char.toNat && Unicode.wordChars.contains char)
  else isAsciiWord char

def before? (chars : Array Char) : Nat → Option Char
  | 0 => none
  | place + 1 => chars[place]?

def after? (chars : Array Char) (place : Nat) : Option Char := chars[place]?

def Look.holds (look : Look) (line : Array Char) (place : Nat) : Bool :=
  let before := before? line place
  let after := after? line place
  let wordBefore unicode := before.any (isWord unicode)
  let wordAfter unicode := after.any (isWord unicode)
  match look with
  | .start => before.isNone
  | .stop => after.isNone
  | .startLine => before.all (· == '\n')
  | .stopLine => after.all (· == '\n')
  | .startCrlf =>
    before.isNone || before == some '\n' || (before == some '\r' && after != some '\n')
  | .stopCrlf => after.isNone || after == some '\r' || (after == some '\n' && before != some '\r')
  | .boundary unicode => wordBefore unicode != wordAfter unicode
  | .notBoundary unicode => wordBefore unicode == wordAfter unicode
  | .wordStart unicode => !wordBefore unicode && wordAfter unicode
  | .wordEnd unicode => wordBefore unicode && !wordAfter unicode
  | .wordStartHalf unicode => !wordBefore unicode
  | .wordEndHalf unicode => !wordAfter unicode

namespace Expr

/-- `Matches line expr start stop`: the expression matches the stretch from `start` to `stop`. -/
inductive Matches (line : Array Char) : Expr → Nat → Nat → Prop where
  | empty (place : Nat) : Matches line .empty place place
  | set (set : CodeSet) (place : Nat) (char : Char) :
    after? line place = some char → set.contains char = true →
      Matches line (.set set) place (place + 1)
  | look (look : Look) (place : Nat) :
    look.holds line place = true → Matches line (.look look) place place
  | seq (first second : Expr) (start middle stop : Nat) :
    Matches line first start middle → Matches line second middle stop →
      Matches line (.seq first second) start stop
  | preferred (preferred other : Expr) (start stop : Nat) :
    Matches line preferred start stop → Matches line (.alt preferred other) start stop
  | other (preferred other : Expr) (start stop : Nat) :
    Matches line other start stop → Matches line (.alt preferred other) start stop
  | done (most : Option Nat) (greedy : Bool) (body : Expr) (place : Nat) :
    Matches line (.rep 0 most greedy body) place place
  | again (least : Nat) (most : Option Nat) (greedy : Bool) (body : Expr)
    (start middle stop : Nat) :
    most ≠ some 0 → Matches line body start middle →
      Matches line (.rep (least - 1) (most.map (· - 1)) greedy body) middle stop →
        Matches line (.rep least most greedy body) start stop
  | capture (body : Expr) (start stop : Nat) :
    Matches line body start stop → Matches line (.capture body) start stop

def onlyEmpty : Expr → Bool
  | .empty => true
  | .set _ => false
  | .look _ => true
  | .seq first second => first.onlyEmpty && second.onlyEmpty
  | .alt preferred other => preferred.onlyEmpty && other.onlyEmpty
  | .rep _ most _ body => body.onlyEmpty || most == some 0
  | .capture body => body.onlyEmpty

def consumes : Expr → Bool
  | .empty => false
  | .set _ => true
  | .look _ => false
  | .seq first second => first.consumes || second.consumes
  | .alt preferred other => preferred.consumes && other.consumes
  | .rep least _ _ body => least != 0 && body.consumes
  | .capture body => body.consumes

def ofChar (char : Char) : Expr := .set (CodeSet.ofChar char)

def sequence : List Expr → Expr
  | [] => .empty
  | [part] => part
  | part :: parts => .seq part (sequence parts)

def choice : List Expr → Expr
  | [] => .empty
  | [branch] => branch
  | branch :: branches => .alt branch (choice branches)

/-- Repeating what takes no characters more than once changes nothing, so it is done at most
once; nothing at all is the empty expression and exactly once is the body itself. -/
def repeated (least : Nat) (most : Option Nat) (greedy : Bool) (body : Expr) : Expr :=
  let (least, most) :=
    if body.onlyEmpty then (min least 1, some ((most.map (min · 1)).getD 1)) else (least, most)
  if least == 0 && most == some 0 then .empty
  else if least == 1 && most == some 1 then body
  else .rep least most greedy body

end Expr

end PatternLint.Regex
