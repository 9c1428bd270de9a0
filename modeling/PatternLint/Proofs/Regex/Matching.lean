import PatternLint.Regex.Expr

namespace PatternLint.Regex

def Times (relation : Nat → Nat → Prop) : (count : Nat) → (start stop : Nat) → Prop
  | 0, start, stop => start = stop
  | count + 1, start, stop => ∃ middle, relation start middle ∧ Times relation count middle stop

theorem times_add (relation : Nat → Nat → Prop) (first second start stop : Nat) :
    Times relation (first + second) start stop ↔
      ∃ middle, Times relation first start middle ∧ Times relation second middle stop := by
  induction first generalizing start with
  | zero => simp [Times]
  | succ first ih =>
    rw [Nat.succ_add]
    constructor
    · rintro ⟨next, step, later⟩
      obtain ⟨middle, before, after⟩ := (ih next).mp later
      exact ⟨middle, ⟨next, step, before⟩, after⟩
    · rintro ⟨middle, ⟨next, step, before⟩, after⟩
      exact ⟨next, step, (ih next).mpr ⟨middle, before, after⟩⟩

namespace Expr

variable (line : Array Char) (start stop : Nat)

/-- A match does not run backwards, and does not leave the line. -/
theorem Matches.bounds {line : Array Char} {expr : Expr} {start stop : Nat}
    (found : Matches line expr start stop) :
    start ≤ stop ∧ (start ≤ line.size → stop ≤ line.size) := by
  induction found with
  | empty place => exact ⟨Nat.le_refl place, id⟩
  | set _ place char here _ =>
    have inside : place < line.size := (Array.getElem?_eq_some_iff.mp here).1
    exact ⟨Nat.le_succ place, fun _ => inside⟩
  | look _ place _ => exact ⟨Nat.le_refl place, id⟩
  | seq _ _ _ _ _ _ _ first second =>
    exact ⟨Nat.le_trans first.1 second.1, fun within => second.2 (first.2 within)⟩
  | preferred _ _ _ _ _ ih => exact ih
  | other _ _ _ _ _ ih => exact ih
  | done _ _ _ place => exact ⟨Nat.le_refl place, id⟩
  | again _ _ _ _ _ _ _ _ _ _ first later =>
    exact ⟨Nat.le_trans first.1 later.1, fun within => later.2 (first.2 within)⟩
  | capture _ _ _ _ ih => exact ih

theorem Matches.lt_of_consumes {line : Array Char} {expr : Expr} {start stop : Nat}
    (found : Matches line expr start stop) (consumes : expr.consumes = true) : start < stop := by
  induction found with
  | empty place => cases consumes
  | set _ place _ _ _ => exact Nat.lt_succ_self place
  | look _ place _ => cases consumes
  | seq _ _ _ _ _ before after first second =>
    rcases Bool.or_eq_true_iff.mp consumes with taken | taken
    · exact Nat.lt_of_lt_of_le (first taken) after.bounds.1
    · exact Nat.lt_of_le_of_lt before.bounds.1 (second taken)
  | preferred _ _ _ _ _ ih => exact ih (Bool.and_eq_true_iff.mp consumes).1
  | other _ _ _ _ _ ih => exact ih (Bool.and_eq_true_iff.mp consumes).2
  | done _ _ _ place => cases consumes
  | again _ _ _ _ _ _ _ _ _ after first _ =>
    exact Nat.lt_of_lt_of_le (first (Bool.and_eq_true_iff.mp consumes).2) after.bounds.1
  | capture _ _ _ _ ih => exact ih consumes

theorem matches_empty_iff : Matches line .empty start stop ↔ start = stop := by
  constructor
  · intro found
    cases found
    rfl
  · rintro rfl
    exact .empty start

theorem matches_set_iff (set : CodeSet) :
    Matches line (.set set) start stop ↔
      stop = start + 1 ∧ ∃ char, after? line start = some char ∧ set.contains char = true := by
  constructor
  · intro found
    cases found with
    | set _ _ char here member => exact ⟨rfl, char, here, member⟩
  · rintro ⟨rfl, char, here, member⟩
    exact .set set start char here member

theorem matches_look_iff (look : Look) :
    Matches line (.look look) start stop ↔ start = stop ∧ look.holds line start = true := by
  constructor
  · intro found
    cases found with
    | look _ _ holds => exact ⟨rfl, holds⟩
  · rintro ⟨rfl, holds⟩
    exact .look look start holds

theorem matches_seq_iff (first second : Expr) :
    Matches line (.seq first second) start stop ↔
      ∃ middle, Matches line first start middle ∧ Matches line second middle stop := by
  constructor
  · intro found
    cases found with
    | seq _ _ _ middle _ before after => exact ⟨middle, before, after⟩
  · rintro ⟨middle, before, after⟩
    exact .seq first second start middle stop before after

theorem matches_alt_iff (preferred other : Expr) :
    Matches line (.alt preferred other) start stop ↔
      Matches line preferred start stop ∨ Matches line other start stop := by
  constructor
  · intro found
    cases found with
    | preferred _ _ _ _ found => exact .inl found
    | other _ _ _ _ found => exact .inr found
  · rintro (found | found)
    · exact .preferred preferred other start stop found
    · exact .other preferred other start stop found

theorem matches_capture_iff (body : Expr) :
    Matches line (.capture body) start stop ↔ Matches line body start stop := by
  constructor
  · intro found
    cases found with
    | capture _ _ _ found => exact found
  · intro found
    exact .capture body start stop found

theorem times_of_matches_rep (least : Nat) (most : Option Nat) (greedy : Bool) (body : Expr)
    (found : Matches line (.rep least most greedy body) start stop) :
    ∃ count, least ≤ count ∧ (∀ bound ∈ most, count ≤ bound) ∧
      Times (Matches line body) count start stop := by
  generalize same : Expr.rep least most greedy body = expr at found
  induction found generalizing least most with
  | done =>
    cases same
    exact ⟨0, Nat.le_refl 0, fun bound _ => Nat.zero_le bound, rfl⟩
  | again _ most _ _ start middle stop allowed first _ _ ih =>
    cases same
    obtain ⟨count, enough, few, times⟩ := ih _ _ rfl
    refine ⟨count + 1, by omega, ?_, middle, first, times⟩
    rintro bound member
    obtain rfl : most = some bound := member
    have positive : bound ≠ 0 := fun none => allowed (by rw [none])
    have fewer := few (bound - 1) rfl
    omega
  | _ => cases same

theorem matches_rep_of_times (least : Nat) (most : Option Nat) (greedy : Bool) (body : Expr)
    (count : Nat) (enough : least ≤ count) (few : ∀ bound ∈ most, count ≤ bound)
    (times : Times (Matches line body) count start stop) :
    Matches line (.rep least most greedy body) start stop := by
  induction count generalizing least most start with
  | zero =>
    obtain rfl : start = stop := times
    obtain rfl : least = 0 := Nat.le_zero.mp enough
    exact .done most greedy body start
  | succ count ih =>
    obtain ⟨middle, first, later⟩ := times
    have allowed : most ≠ some 0 := by
      rintro rfl
      exact absurd (few 0 rfl) (Nat.not_succ_le_zero count)
    refine .again least most greedy body start middle stop allowed first ?_
    apply ih
    · omega
    · intro bound member
      obtain ⟨whole, present, rfl⟩ := Option.map_eq_some_iff.mp member
      have bounded := few whole present
      omega
    · exact later

theorem matches_rep_iff (least : Nat) (most : Option Nat) (greedy : Bool) (body : Expr) :
    Matches line (.rep least most greedy body) start stop ↔
      ∃ count, least ≤ count ∧ (∀ bound ∈ most, count ≤ bound) ∧
        Times (Matches line body) count start stop := by
  constructor
  · exact times_of_matches_rep line start stop least most greedy body
  · rintro ⟨count, enough, few, times⟩
    exact matches_rep_of_times line start stop least most greedy body count enough few times

end Expr

end PatternLint.Regex
