import PatternLint.Regex.Expr
import Std.Data.HashSet

/-!
How much room an expression takes when characters are spelled out as bytes, and the most that is
allowed. The sizes are computed without laying anything out, so a pattern that asks for billions of
copies is refused at once.
-/

namespace PatternLint.Regex

def sizeLimit : Nat := 10485760

namespace Footprint

def stateBytes : Nat := 32

def transitionBytes : Nat := 8

def branchBytes : Nat := 4

def utf8Bytes (code : Nat) : List Nat :=
  if code < 0x80 then [code]
  else if code < 0x800 then [0xC0 + code / 64, 0x80 + code % 64]
  else if code < 0x10000 then [0xE0 + code / 4096, 0x80 + code / 64 % 64, 0x80 + code % 64]
  else [0xF0 + code / 262144, 0x80 + code / 4096 % 64, 0x80 + code / 64 % 64, 0x80 + code % 64]

/-- Where a span has to be cut so that the spellings of its ends bound the spellings of all its
members byte by byte: at a change of length, around the surrogates, and where a lower byte would
not run through its whole range. -/
def cut? (span : Span) : Option Nat :=
  let edges := [0x7F, 0x7FF, 0xD7FF, 0xDFFF, 0xFFFF]
  match edges.find? fun edge => span.first ≤ edge ∧ edge < span.last with
  | some edge => some edge
  | none =>
    if span.last < 0x80 then none
    else
      [64, 4096, 262144].findSome? fun unit =>
        if span.first / unit = span.last / unit then none
        else if span.first % unit ≠ 0 then some (span.first / unit * unit + unit - 1)
        else if span.last % unit ≠ unit - 1 then some (span.last / unit * unit - 1)
        else none

/-- The byte ranges of a span, one list for each way to spell its members. -/
def spellings : (fuel : Nat) → Span → List (List (Nat × Nat))
  | 0, _ => []
  | fuel + 1, span =>
    match cut? span with
    | some edge => spellings fuel ⟨span.first, edge⟩ ++ spellings fuel ⟨edge + 1, span.last⟩
    | none =>
      if 0xD800 ≤ span.first ∧ span.last ≤ 0xDFFF then []
      else [(utf8Bytes span.first).zip (utf8Bytes span.last)]

def beginnings (spellings : List (List (Nat × Nat))) : Nat :=
  (spellings.foldl
    (fun (seen : Std.HashSet (List (Nat × Nat))) spelling =>
      (List.range spelling.length).foldl
        (fun seen count => seen.insert (spelling.take (count + 1))) seen) {}).size

def ofSet (set : CodeSet) : Nat :=
  match set.single? with
  | some code => (utf8Bytes code).length * stateBytes
  | none =>
    if set.isAscii then 2 * stateBytes + set.spans.length * transitionBytes
    else
      let spelled := set.spans.flatMap (spellings 32)
      (2 + beginnings spelled) * stateBytes + spelled.length * branchBytes

def ofRep (least : Nat) (most : Option Nat) (consumes : Bool) (body : Nat) : Nat :=
  let choice := stateBytes + 2 * branchBytes
  match most, least with
  | some 1, 0 => body + choice + stateBytes
  | some most, _ =>
    if least = most then most * body else most * body + (most - least) * choice + stateBytes
  | none, 0 => if consumes then body + choice else body + 2 * choice + stateBytes
  | none, least => least * body + choice

def ofExpr : Expr → Nat
  | .empty => stateBytes
  | .set chars => ofSet chars
  | .look _ => stateBytes
  | .seq first second => ofExpr first + ofExpr second
  | .alt preferred other => ofExpr preferred + ofExpr other + stateBytes + 2 * branchBytes
  | .rep least most _ body => ofRep least most body.consumes (ofExpr body)
  | .capture body => ofExpr body + 2 * stateBytes

/-- The whole pattern: its expression, the marks of the match as a whole, and the loop that looks
for where it begins. -/
def ofPattern (expr : Expr) : Nat := ofExpr expr + 5 * stateBytes + 2 * branchBytes

end Footprint

end PatternLint.Regex
