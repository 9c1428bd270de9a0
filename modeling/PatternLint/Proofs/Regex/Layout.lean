import Mathlib.Data.List.Range
import PatternLint.Proofs.Regex.Running

namespace PatternLint.Regex

namespace Expr

def Counted : Expr → Prop
  | .seq first second => first.Counted ∧ second.Counted
  | .alt preferred other => preferred.Counted ∧ other.Counted
  | .rep least most _ body => (∀ bound ∈ most, least ≤ bound) ∧ body.Counted
  | .capture body => body.Counted
  | _ => True

section Copies

variable (count size base next : Nat) (greedy : Bool) (body : Nat → Nat → List Instr)

theorem copies_succ :
    copies (count + 1) size base body =
      body base (base + size) ++ copies count size (base + size) body := by
  have shift (index : Nat) : base + (index + 1) * size = base + size + index * size := by
    rw [Nat.succ_mul]
    omega
  unfold copies
  rw [List.range_succ_eq_map, List.flatMap_cons, List.flatMap_map]
  simp only [Nat.zero_mul, Nat.add_zero, Nat.zero_add, Nat.one_mul, Nat.succ_eq_add_one, shift]

theorem optionalCopies_succ :
    optionalCopies (count + 1) size base next greedy body =
      fork greedy (base + 1) next :: (body (base + 1) (base + 1 + size) ++
        optionalCopies count size (base + 1 + size) next greedy body) := by
  have shift (index : Nat) :
      base + (index + 1) * (size + 1) = base + 1 + size + index * (size + 1) := by
    rw [Nat.succ_mul]
    omega
  unfold optionalCopies
  rw [List.range_succ_eq_map, List.flatMap_cons, List.flatMap_map]
  simp only [Nat.zero_mul, Nat.add_zero, Nat.succ_eq_add_one, shift, List.cons_append]

variable (sized : ∀ base next, (body base next).length = size)
include sized

theorem length_copies : (copies count size base body).length = count * size := by
  induction count generalizing base with
  | zero => simp [copies]
  | succ count ih =>
    rw [copies_succ, List.length_append, sized, ih, Nat.succ_mul, Nat.add_comm]

theorem length_optionalCopies :
    (optionalCopies count size base next greedy body).length = count * (size + 1) := by
  induction count generalizing base with
  | zero => simp [optionalCopies]
  | succ count ih =>
    rw [optionalCopies_succ, List.length_cons, List.length_append, sized, ih, Nat.succ_mul]
    omega

theorem length_repCode (least : Nat) (most : Option Nat) (consumes : Bool) :
    (repCode least most greedy consumes size base next body).length =
      repSize least most consumes size := by
  cases most with
  | some most =>
    simp [repCode, repSize, length_copies least size base body sized,
      length_optionalCopies (most - least) size (base + least * size) next greedy body sized,
      Nat.add_assoc]
  | none =>
    cases least with
    | zero => cases consumes <;> simp [repCode, repSize, sized]
    | succ before =>
      simp [repCode, repSize, length_copies before size base body sized, sized, Nat.add_assoc]

end Copies

theorem length_code (expr : Expr) (base next : Nat) : (expr.code base next).length = expr.size := by
  induction expr generalizing base next with
  | empty => rfl
  | set => rfl
  | look => rfl
  | seq first second ih also => rw [code, List.length_append, ih, also, size]
  | alt preferred other ih also =>
    rw [code, List.length_cons, List.length_append, ih, also, size]
  | rep least most greedy body ih =>
    exact length_repCode body.size base next greedy body.code ih least most body.consumes
  | capture body ih => exact ih base next

end Expr

namespace Program.Carries

variable {program : Program} {line : Array Char} {relation : Nat → Nat → Prop}

section Copies

variable (size : Nat) (greedy : Bool) (body : Nat → Nat → List Instr)
  (sized : ∀ base next, (body base next).length = size)
  (carried : ∀ base next, Holds program base (body base next) →
    Carries program line base next relation)
include sized carried

theorem copies (count base : Nat) (held : Holds program base (Expr.copies count size base body)) :
    Carries program line base (base + count * size) (Times relation count) := by
  induction count generalizing base with
  | zero =>
    rw [Nat.zero_mul]
    exact refl base
  | succ count ih =>
    rw [Expr.copies_succ, holds_append_iff, sized] at held
    have first := carried base (base + size) held.1
    have rest := ih (base + size) held.2
    have stop : base + size + count * size = base + (count + 1) * size := by
      rw [Nat.succ_mul]
      omega
    exact stop ▸ first.trans rest

theorem optionalCopies (count base next : Nat)
    (held : Holds program base
      (Expr.optionalCopies count size base next greedy body ++ [.jump next])) :
    Carries program line base next fun start stop =>
      ∃ times, times ≤ count ∧ Times relation times start stop := by
  induction count generalizing base with
  | zero =>
    refine (jump held.1).congr fun start stop => ?_
    simp [Times]
  | succ count ih =>
    rw [Expr.optionalCopies_succ, List.cons_append, List.append_assoc] at held
    obtain ⟨here, held⟩ := held
    rw [holds_append_iff, sized] at held
    have first := carried (base + 1) (base + 1 + size) held.1
    refine (fork greedy here (first.trans (ih (base + 1 + size) held.2)) (refl next)).congr ?_
    intro start stop
    constructor
    · rintro (⟨middle, step, times, few, later⟩ | rfl)
      · exact ⟨times + 1, Nat.succ_le_succ few, middle, step, later⟩
      · exact ⟨0, Nat.zero_le _, rfl⟩
    · rintro ⟨times, few, done⟩
      cases times with
      | zero => exact .inr done
      | succ times =>
        obtain ⟨middle, step, later⟩ := done
        exact .inl ⟨middle, step, times, Nat.le_of_succ_le_succ few, later⟩

/-- A repetition with an upper bound: the copies that must be, then those that may be skipped. -/
theorem repCode_some (least most : Nat) (consumes : Bool) (base next : Nat) (bounded : least ≤ most)
    (held : Holds program base
      (Expr.repCode least (some most) greedy consumes size base next body)) :
    Carries program line base next fun start stop =>
      ∃ count, least ≤ count ∧ count ≤ most ∧ Times relation count start stop := by
  rw [Expr.repCode, List.append_assoc, holds_append_iff,
    Expr.length_copies least size base body sized] at held
  have must := copies size body sized carried least base held.1
  have may := optionalCopies size greedy body sized carried (most - least) _ next held.2
  refine (must.trans may).congr fun start stop => ?_
  constructor
  · rintro ⟨middle, before, times, few, after⟩
    exact ⟨least + times, by omega, by omega, (times_add _ _ _ _ _).mpr ⟨middle, before, after⟩⟩
  · rintro ⟨count, enough, few, times⟩
    obtain ⟨more, rfl⟩ := Nat.exists_eq_add_of_le enough
    obtain ⟨middle, before, after⟩ := (times_add _ _ _ _ _).mp times
    exact ⟨middle, before, more, by omega, after⟩

/-- A repetition without bounds. A body that may take nothing is entered before the loop, which
then goes through it again. -/
theorem repCode_any (consumes : Bool) (base next : Nat)
    (held : Holds program base (Expr.repCode 0 none greedy consumes size base next body)) :
    Carries program line base next fun start stop =>
      ∃ count, Times relation count start stop := by
  cases consumes with
  | true =>
    obtain ⟨here, held⟩ := held
    exact loop greedy here (carried (base + 1) base held)
  | false =>
    simp only [Expr.repCode, Bool.false_eq_true, if_false, List.cons_append] at held
    obtain ⟨here, held⟩ := held
    rw [holds_append_iff, sized] at held
    have first := carried (base + 1) (base + 1 + size) held.1
    have again := first.trans (loop greedy held.2.1 first)
    refine (fork greedy here again (refl next)).congr fun start stop => ?_
    constructor
    · rintro (⟨middle, step, count, later⟩ | rfl)
      · exact ⟨count + 1, middle, step, later⟩
      · exact ⟨0, rfl⟩
    · rintro ⟨count, times⟩
      cases count with
      | zero => exact .inr times
      | succ count =>
        obtain ⟨middle, step, later⟩ := times
        exact .inl ⟨middle, step, count, later⟩

theorem repCode_succ (before : Nat) (consumes : Bool) (base next : Nat)
    (held : Holds program base
      (Expr.repCode (before + 1) none greedy consumes size base next body)) :
    Carries program line base next fun start stop =>
      ∃ count, before + 1 ≤ count ∧ Times relation count start stop := by
  simp only [Expr.repCode, List.append_assoc] at held
  rw [holds_append_iff, holds_append_iff, Expr.length_copies before size base body sized,
    sized] at held
  have must := copies size body sized carried before base held.1
  have last := carried _ _ held.2.1
  refine (must.trans (last.trans (loop greedy held.2.2.1 last))).congr fun start stop => ?_
  constructor
  · rintro ⟨middle, first, between, step, count, later⟩
    exact ⟨before + (count + 1), by omega,
      (times_add _ _ _ _ _).mpr ⟨middle, first, between, step, later⟩⟩
  · rintro ⟨count, enough, times⟩
    obtain ⟨more, rfl⟩ : ∃ more, count = before + (more + 1) :=
      ⟨count - before - 1, by omega⟩
    obtain ⟨middle, first, between, step, later⟩ := (times_add _ _ _ _ _).mp times
    exact ⟨middle, first, between, step, more, later⟩

theorem repCode (least : Nat) (most : Option Nat) (consumes : Bool) (base next : Nat)
    (bounded : ∀ bound ∈ most, least ≤ bound)
    (held : Holds program base (Expr.repCode least most greedy consumes size base next body)) :
    Carries program line base next fun start stop =>
      ∃ count, least ≤ count ∧ (∀ bound ∈ most, count ≤ bound) ∧
        Times relation count start stop := by
  cases most with
  | some most =>
    refine (repCode_some size greedy body sized carried least most consumes base next
      (bounded most rfl) held).congr fun start stop => ?_
    simp
  | none =>
    cases least with
    | zero =>
      refine (repCode_any size greedy body sized carried consumes base next held).congr
        fun start stop => ?_
      simp
    | succ before =>
      refine (repCode_succ size greedy body sized carried before consumes base next held).congr
        fun start stop => ?_
      simp

end Copies

theorem code (expr : Expr) (counted : expr.Counted) (base next : Nat)
    (held : Holds program base (expr.code base next)) :
    Carries program line base next (Expr.Matches line expr) := by
  induction expr generalizing base next with
  | empty =>
    exact (jump held.1).congr fun start stop => (Expr.matches_empty_iff line start stop).symm
  | set set => exact take set held.1
  | look place => exact look place held.1
  | seq first second ih also =>
    rw [Expr.code, holds_append_iff, Expr.length_code] at held
    have before := ih counted.1 base (base + first.size) held.1
    have after := also counted.2 (base + first.size) next held.2
    exact (before.trans after).congr fun start stop =>
      (Expr.matches_seq_iff line start stop first second).symm
  | alt preferred other ih also =>
    obtain ⟨here, held⟩ := held
    rw [holds_append_iff, Expr.length_code] at held
    have first := ih counted.1 (base + 1) next held.1
    have second := also counted.2 (base + 1 + preferred.size) next held.2
    exact (fork true here first second).congr fun start stop =>
      (Expr.matches_alt_iff line start stop preferred other).symm
  | rep least most greedy body ih =>
    have sized := Expr.length_code body
    have carries := repCode body.size greedy body.code sized (ih counted.2) least most body.consumes
      base next counted.1 held
    exact carries.congr fun start stop =>
      (Expr.matches_rep_iff line start stop least most greedy body).symm
  | capture body ih =>
    exact (ih counted base next held).congr fun start stop =>
      (Expr.matches_capture_iff line start stop body).symm

end Program.Carries

namespace Program

theorem accepted_of_accept (program : Program) (line : Array Char) (thread : Thread) (stop : Nat)
    (here : program[thread.instr]? = some .accept) :
    Accepted program line thread stop ↔ thread.place = stop := by
  constructor
  · rintro ⟨steps, run⟩
    cases run with
    | here => rfl
    | step _ _ next instr _ found member _ =>
      rw [here] at found
      cases found
      cases member
  · rintro rfl
    exact ⟨0, .here thread here⟩

/-- The program of an expression accepts, from each place, what the expression matches there. -/
theorem accepted_ofExpr_iff (line : Array Char) (expr : Expr) (counted : expr.Counted)
    (start stop : Nat) :
    Accepted (ofExpr expr) line ⟨0, start⟩ stop ↔ expr.Matches line start stop := by
  have held : Holds (ofExpr expr) 0 (expr.code 0 expr.size ++ [.accept]) :=
    holds_toArray [] (expr.code 0 expr.size ++ [Instr.accept])
  rw [holds_append_iff, Expr.length_code, Nat.zero_add] at held
  have carries : Carries (ofExpr expr) line 0 expr.size (Expr.Matches line expr) :=
    Carries.code expr counted 0 expr.size held.1
  have final (place stop : Nat) := accepted_of_accept _ line ⟨expr.size, place⟩ stop held.2.1
  constructor
  · rintro ⟨steps, run⟩
    obtain ⟨left, middle, _, matched, run⟩ := carries.sound steps start stop run
    obtain rfl := (final middle stop).mp ⟨left, run⟩
    exact matched
  · intro matched
    exact carries.complete start stop stop matched ((final stop stop).mpr rfl)

end Program

end PatternLint.Regex
