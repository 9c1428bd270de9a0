import PatternLint.Regex.Expr

/-!
Expressions laid out as a list of instructions. Every instruction names the one that follows it, and
an expression laid out from `base` on is entered at `base` and left towards `next`.
-/

namespace PatternLint.Regex

inductive Instr where
  | take (set : CodeSet) (next : Nat)
  | look (look : Look) (next : Nat)
  | split (preferred other : Nat)
  | jump (next : Nat)
  | accept

namespace Expr

/-- A choice between going into a body and leaving it; a lazy one leaves first. -/
def fork (greedy : Bool) (body next : Nat) : Instr :=
  if greedy then .split body next else .split next body

def repSize (least : Nat) (most : Option Nat) (consumes : Bool) (body : Nat) : Nat :=
  match most, least with
  | some most, _ => least * body + (most - least) * (body + 1) + 1
  | none, 0 => if consumes then body + 1 else body + 2
  | none, before + 1 => before * body + body + 1

def size : Expr → Nat
  | .empty => 1
  | .set _ => 1
  | .look _ => 1
  | .seq first second => first.size + second.size
  | .alt preferred other => preferred.size + other.size + 1
  | .rep least most _ body => repSize least most body.consumes body.size
  | .capture body => body.size

def copies (count size base : Nat) (body : Nat → Nat → List Instr) : List Instr :=
  (List.range count).flatMap fun index => body (base + index * size) (base + (index + 1) * size)

/-- Copies that may each be skipped together with all later ones. -/
def optionalCopies (count size base next : Nat) (greedy : Bool)
    (body : Nat → Nat → List Instr) : List Instr :=
  (List.range count).flatMap fun index =>
    let here := base + index * (size + 1)
    fork greedy (here + 1) next :: body (here + 1) (here + 1 + size)

/-- A repetition. What may match without taking a character is entered once and then repeated, so
that its first way to match nothing wins over trying again. -/
def repCode (least : Nat) (most : Option Nat) (greedy consumes : Bool) (size base next : Nat)
    (body : Nat → Nat → List Instr) : List Instr :=
  match most, least with
  | some most, _ =>
    copies least size base body ++
      optionalCopies (most - least) size (base + least * size) next greedy body ++ [.jump next]
  | none, 0 =>
    if consumes then fork greedy (base + 1) next :: body (base + 1) base
    else fork greedy (base + 1) next :: body (base + 1) (base + 1 + size) ++
      [fork greedy (base + 1) next]
  | none, before + 1 =>
    let last := base + before * size
    copies before size base body ++ body last (last + size) ++ [fork greedy last next]

def code : Expr → (base next : Nat) → List Instr
  | .empty, _, next => [.jump next]
  | .set chars, _, next => [.take chars next]
  | .look place, _, next => [.look place next]
  | .seq first second, base, next =>
    first.code base (base + first.size) ++ second.code (base + first.size) next
  | .alt preferred other, base, next =>
    .split (base + 1) (base + 1 + preferred.size) ::
      (preferred.code (base + 1) next ++ other.code (base + 1 + preferred.size) next)
  | .rep least most greedy body, base, next =>
    repCode least most greedy body.consumes body.size base next body.code
  | .capture body, base, next => body.code base next

end Expr

abbrev Program := Array Instr

def Program.ofExpr (expr : Expr) : Program := (expr.code 0 expr.size ++ [Instr.accept]).toArray

end PatternLint.Regex
