namespace PatternLint

structure Span where
  first : Nat
  last : Nat
deriving BEq, Repr

/-- A set of code points; its spans ascend. -/
structure CodeSet where
  spans : List Span
deriving BEq, Repr

namespace CodeSet

def maxCode : Nat := 0x10FFFF

def empty : CodeSet := ⟨[]⟩

def all : CodeSet := ⟨[⟨0, maxCode⟩]⟩

def ofCode (code : Nat) : CodeSet := ⟨[⟨code, code⟩]⟩

def ofChar (char : Char) : CodeSet := ofCode char.toNat

/-- Spans ascend, so the search ends at the first span that begins after the code point. -/
def spansHold (code : Nat) : List Span → Bool
  | [] => false
  | span :: rest =>
    if code < span.first then false
    else if code ≤ span.last then true
    else spansHold code rest

def holds (set : CodeSet) (code : Nat) : Bool := spansHold code set.spans

def contains (set : CodeSet) (char : Char) : Bool := set.holds char.toNat

def join : List Span → List Span
  | [] => []
  | span :: rest =>
    match join rest with
    | [] => [span]
    | next :: after =>
      if next.first ≤ span.last + 1 then ⟨span.first, max span.last next.last⟩ :: after
      else span :: next :: after

/-- Joining from the right sees only the next span, so spans are first cut to ascending order of
their beginnings with every end raised to the greatest end before it. -/
def raise (reached : Nat) : List Span → List Span
  | [] => []
  | span :: rest =>
    let last := max reached span.last
    ⟨span.first, last⟩ :: raise last rest

def ofSpans (spans : List Span) : CodeSet :=
  ⟨join (raise 0 (spans.mergeSort fun one other => one.first ≤ other.first))⟩

def union (one other : CodeSet) : CodeSet :=
  match one.spans, other.spans with
  | [], _ => other
  | _, [] => one
  | left, right => ofSpans (left ++ right)

def insert (set : CodeSet) (first last : Nat) : CodeSet := ofSpans (⟨first, last⟩ :: set.spans)

def gaps (start : Nat) : List Span → List Span
  | [] => if start ≤ maxCode then [⟨start, maxCode⟩] else []
  | span :: rest =>
    if start < span.first then ⟨start, span.first - 1⟩ :: gaps (span.last + 1) rest
    else gaps (span.last + 1) rest

def complement (set : CodeSet) : CodeSet := ⟨gaps 0 set.spans⟩

def inter (one other : CodeSet) : CodeSet := (one.complement.union other.complement).complement

def diff (one other : CodeSet) : CodeSet := one.inter other.complement

def symmDiff (one other : CodeSet) : CodeSet := (one.union other).diff (one.inter other)

def isAscii (set : CodeSet) : Bool := set.spans.all fun span => span.last < 0x80

def single? (set : CodeSet) : Option Nat :=
  match set.spans with
  | [span] => if span.first == span.last then some span.first else none
  | _ => none

end CodeSet

end PatternLint
