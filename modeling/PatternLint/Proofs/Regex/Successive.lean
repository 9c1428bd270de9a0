import PatternLint.Proofs.Regex.Exploring
import PatternLint.Rule.Basic

/-!
Successive matches, said without a program: each is leftmost from where the last one stopped, and an
empty match there does not count. They lie one behind the other, and where nothing matches without
taking a character they leave out no place where a match begins.
-/

namespace PatternLint

namespace Regex

section Successive

variable (matched : Nat → Nat → Prop) (size : Nat)

/-- A match that begins at the first place from `start` on where any match begins. -/
structure Leftmost (start : Nat) (found : Stretch) : Prop where
  ahead : start ≤ found.start
  within : found.start ≤ size
  holds : matched found.start found.stop
  first : ∀ place, start ≤ place → place < found.start → ∀ stop, ¬ matched place stop

/-- The matches from `start` on, one after the other; `last` is where the one before stopped. -/
inductive Successive : (start : Nat) → (last : Option Nat) → List Stretch → Prop where
  | finished (start : Nat) (last : Option Nat) :
    (∀ place, start ≤ place → place ≤ size → ∀ stop, ¬ matched place stop) →
      Successive start last []
  | passed (start : Nat) (last : Option Nat) (found : Stretch) (rest : List Stretch) :
    Leftmost matched size start found → found.start = found.stop ∧ last = some found.stop →
      Successive (start + 1) last rest → Successive start last rest
  | taken (start : Nat) (last : Option Nat) (found : Stretch) (rest : List Stretch) :
    Leftmost matched size start found → ¬ (found.start = found.stop ∧ last = some found.stop) →
      Successive found.stop (some found.stop) rest → Successive start last (found :: rest)

variable {matched size} {start : Nat} {last : Option Nat} {all : List Stretch}

theorem Successive.member (successive : Successive matched size start last all)
    (bounds : ∀ start stop, matched start stop → start ≤ stop ∧ (start ≤ size → stop ≤ size)) :
    ∀ found ∈ all, start ≤ found.start ∧ found.start ≤ found.stop ∧ found.stop ≤ size ∧
      matched found.start found.stop := by
  induction successive with
  | finished => simp
  | passed start last found rest _ _ _ ih =>
    intro later member
    obtain ⟨ahead, others⟩ := ih later member
    exact ⟨Nat.le_of_succ_le ahead, others⟩
  | taken start last found rest leftmost _ _ ih =>
    have bounded := bounds found.start found.stop leftmost.holds
    refine List.forall_mem_cons.mpr ⟨⟨leftmost.ahead, bounded.1, bounded.2 leftmost.within,
      leftmost.holds⟩, ?_⟩
    intro later member
    obtain ⟨ahead, others⟩ := ih later member
    exact ⟨Nat.le_trans leftmost.ahead (Nat.le_trans bounded.1 ahead), others⟩

theorem Successive.pairwise (successive : Successive matched size start last all)
    (bounds : ∀ start stop, matched start stop → start ≤ stop ∧ (start ≤ size → stop ≤ size)) :
    all.Pairwise fun one other => one.stop ≤ other.start := by
  induction successive with
  | finished => exact .nil
  | passed _ _ _ _ _ _ _ ih => exact ih
  | taken start last found rest _ _ successive ih =>
    exact .cons (fun later member => (successive.member bounds later member).1) ih

/-- Where no match is empty, every place where a match begins lies in one of the successive
matches: the next one begins there or before, and one that stops before is left behind. -/
theorem Successive.covers (successive : Successive matched size start last all)
    (filled : ∀ place ≤ size, ¬ matched place place) (place stop : Nat) (ahead : start ≤ place)
    (within : place ≤ size) (here : matched place stop) :
    ∃ found ∈ all, found.start ≤ place ∧ place < found.stop := by
  induction successive with
  | finished start last none => exact absurd here (none place ahead within stop)
  | passed start last found rest leftmost empty _ ih =>
    have nothing := leftmost.holds
    rw [← empty.1] at nothing
    exact absurd nothing (filled found.start leftmost.within)
  | taken start last found rest leftmost _ _ ih =>
    have begins : found.start ≤ place := by
      by_contra behind
      exact leftmost.first place ahead (by omega) stop here
    by_cases inside : place < found.stop
    · exact ⟨found, List.mem_cons_self, begins, inside⟩
    · obtain ⟨later, member, covered⟩ := ih (by omega)
      exact ⟨later, List.mem_cons_of_mem _ member, covered⟩

end Successive

namespace Program

variable (program : Program) (line : Array Char)

def AcceptsBetween (start stop : Nat) : Prop := Accepted program line ⟨0, start⟩ stop

theorem acceptsBetween_bounds (start stop : Nat)
    (accepted : AcceptsBetween program line start stop) :
    start ≤ stop ∧ (start ≤ line.size → stop ≤ line.size) := by
  obtain ⟨steps, run⟩ := accepted
  exact run.bounds

theorem leftmost_of_search (start : Nat) (found : Stretch) (within : start ≤ line.size + 1)
    (hit : search program line start = some found) :
    Leftmost (AcceptsBetween program line) line.size start found := by
  obtain ⟨ahead, below, accepted, barren⟩ :=
    searchFrom_some _ start {} found (by omega) closed_empty hit
  exact ⟨ahead, by omega, accepted, barren⟩

theorem none_of_search (start : Nat) (within : start ≤ line.size + 1)
    (missed : search program line start = none) (place : Nat) (ahead : start ≤ place)
    (inside : place ≤ line.size) (stop : Nat) : ¬ AcceptsBetween program line place stop :=
  searchFrom_none _ start {} (by omega) closed_empty missed place ahead (by omega) stop

/-- At each place the search may stop twice: at the end of a match, and at an empty match there. -/
theorem successive_of_fuel (fuel start : Nat) (last : Option Nat) (within : start ≤ line.size + 1)
    (behind : ∀ stop ∈ last, stop ≤ start)
    (enough : 2 * (line.size + 1 - start) + (if last = some start then 0 else 1) ≤ fuel) :
    Successive (AcceptsBetween program line) line.size start last
      (successive program line fuel start last) := by
  fun_induction successive program line fuel start last with
  | case1 start last =>
    refine .finished start last ?_
    intro place ahead inside
    omega
  | case2 fuel start last missed =>
    exact .finished start last (none_of_search program line start within missed)
  | case3 fuel start last found hit empty ih =>
    have leftmost := leftmost_of_search program line start found within hit
    have here : found.stop = start := by
      have before := behind found.stop empty.2
      have ahead := leftmost.ahead
      omega
    have inside := leftmost.within
    refine .passed start last found _ leftmost empty (ih ?_ ?_ ?_)
    · omega
    · intro stop member
      exact Nat.le_succ_of_le (behind stop member)
    · rw [empty.2, here, if_pos rfl] at enough
      rw [empty.2, here, if_neg (by simp)]
      omega
  | case4 fuel start last found hit filled ih =>
    have leftmost := leftmost_of_search program line start found within hit
    have bounds := acceptsBetween_bounds program line _ _ leftmost.holds
    have inside := bounds.2 leftmost.within
    have ahead := leftmost.ahead
    refine .taken start last found _ leftmost filled (ih ?_ ?_ ?_)
    · omega
    · intro stop member
      exact (Option.some.inj member).ge
    · rw [if_pos rfl]
      split at enough
      · rename_i same
        have moved : start ≠ found.stop := by
          intro equal
          exact filled ⟨by omega, by rw [same, equal]⟩
        omega
      · omega

theorem findAll_successive :
    Successive (AcceptsBetween program line) line.size 0 none (findAll program line) := by
  apply successive_of_fuel
  · exact Nat.zero_le _
  · simp
  · simp only [reduceCtorEq, if_false]
    omega

end Program

end Regex

namespace Rule

variable (rule : Rule) (line : Array Char)

theorem mem_findIn_iff (found : Regex.Stretch) :
    found ∈ rule.findIn line ↔
      found ∈ rule.pattern.findAll line ∧ found.start ≠ found.stop ∧
        rule.isAllowed line found.start = false := by
  simp [findIn, List.mem_filter]

theorem findIn_bounds (found : Regex.Stretch) (member : found ∈ rule.findIn line) :
    found.start < found.stop ∧ found.stop ≤ line.size := by
  obtain ⟨present, filled, _⟩ := (rule.mem_findIn_iff line found).mp member
  obtain ⟨_, ordered, inside, _⟩ :=
    (Regex.Program.findAll_successive rule.pattern.program line).member
      (Regex.Program.acceptsBetween_bounds _ line) found present
  exact ⟨Nat.lt_of_le_of_ne ordered filled, inside⟩

theorem findIn_apart :
    (rule.findIn line).Pairwise fun one other => one.stop ≤ other.start :=
  ((Regex.Program.findAll_successive rule.pattern.program line).pairwise
    (Regex.Program.acceptsBetween_bounds _ line)).sublist List.filter_sublist

theorem findIn_pairwise :
    (rule.findIn line).Pairwise fun one other => one.start < other.start := by
  refine (rule.findIn_apart line).imp_of_mem ?_
  intro one other member _ behind
  exact Nat.lt_of_lt_of_le (rule.findIn_bounds line one member).1 behind

end Rule

end PatternLint
