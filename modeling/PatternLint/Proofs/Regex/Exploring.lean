import Mathlib.Data.Finset.Card
import Mathlib.Order.Interval.Finset.Nat
import PatternLint.Proofs.Regex.Running

/-!
A search finds a thread that is accepted if there is one. What was seen without success is closed:
it holds no acceptance, and all that may follow it was seen too or still waits. The search ends,
since every thread is entered into what was seen once.
-/

namespace PatternLint.Regex.Program

variable {program : Program} {line : Array Char}

theorem successors_bounds (instr : Instr) (place : Nat) (next : Thread)
    (member : next ∈ successors instr line place) :
    place ≤ next.place ∧ (place ≤ line.size → next.place ≤ line.size) := by
  cases instr with
  | take set target =>
    simp only [successors] at member
    split at member
    · rename_i char here
      have inside : place < line.size := (Array.getElem?_eq_some_iff.mp here).1
      split at member
      · obtain rfl := List.mem_singleton.mp member
        exact ⟨Nat.le_succ place, fun _ => inside⟩
      · cases member
    · cases member
  | look look target =>
    simp only [successors] at member
    split at member
    · obtain rfl := List.mem_singleton.mp member
      exact ⟨Nat.le_refl place, id⟩
    · cases member
  | split preferred other =>
    simp only [successors, List.mem_cons, List.not_mem_nil, or_false] at member
    rcases member with rfl | rfl <;> exact ⟨Nat.le_refl place, id⟩
  | jump target =>
    obtain rfl := List.mem_singleton.mp member
    exact ⟨Nat.le_refl place, id⟩
  | accept => cases member

theorem length_successors_le (instr : Instr) (place : Nat) :
    (successors instr line place).length ≤ 2 := by
  unfold successors
  split <;> (try split) <;> (try split) <;> simp

theorem Accepts.bounds {steps stop : Nat} {thread : Thread}
    (run : Accepts program line steps thread stop) :
    thread.place ≤ stop ∧ (thread.place ≤ line.size → stop ≤ line.size) := by
  induction run with
  | here thread _ => exact ⟨Nat.le_refl _, id⟩
  | step steps thread next instr stop _ member _ ih =>
    have first := successors_bounds instr thread.place next member
    exact ⟨Nat.le_trans first.1 ih.1, fun within => ih.2 (first.2 within)⟩

theorem accepted_of_explore (fuel : Nat) (seen : Std.HashSet Nat) (waiting : List Thread)
    (stop : Nat) (found : (explore program line fuel seen waiting).1 = some stop) :
    ∃ thread ∈ waiting, Accepted program line thread stop := by
  fun_induction explore program line fuel seen waiting with
  | case1 => cases found
  | case2 => cases found
  | case3 fuel seen thread waiting known ih =>
    obtain ⟨other, member, accepted⟩ := ih found
    exact ⟨other, List.mem_cons_of_mem _ member, accepted⟩
  | case4 fuel seen thread waiting fresh absent ih =>
    obtain ⟨other, member, accepted⟩ := ih found
    exact ⟨other, List.mem_cons_of_mem _ member, accepted⟩
  | case5 fuel seen thread waiting fresh accepts =>
    cases found
    exact ⟨thread, List.mem_cons_self, 0, .here thread accepts⟩
  | case6 fuel seen thread waiting fresh instr goesOn here ih =>
    obtain ⟨next, member, accepted⟩ := ih found
    rcases List.mem_append.mp member with follows | waits
    · exact ⟨thread, List.mem_cons_self,
        accepted_of_successor instr thread next stop here follows accepted⟩
    · exact ⟨next, List.mem_cons_of_mem _ waits, accepted⟩

def Seen (line : Array Char) (seen : Std.HashSet Nat) (thread : Thread) : Prop :=
  key line thread ∈ seen

def Settled (program : Program) (line : Array Char) (seen : Std.HashSet Nat)
    (thread : Thread) : Prop :=
  program[thread.instr]? = none ∨ Seen line seen thread

/-- Threads that were seen do not accept, and what may follow them is settled or waits. -/
def Closed (program : Program) (line : Array Char) (seen : Std.HashSet Nat)
    (waiting : List Thread) : Prop :=
  ∀ thread, thread.place ≤ line.size → Seen line seen thread →
    ∀ instr, program[thread.instr]? = some instr →
      instr ≠ .accept ∧ ∀ next ∈ successors instr line thread.place,
        Settled program line seen next ∨ next ∈ waiting

theorem key_div (thread : Thread) (within : thread.place ≤ line.size) :
    key line thread / (line.size + 1) = thread.instr := by
  rw [key, Nat.mul_comm, Nat.mul_add_div (Nat.succ_pos _),
    Nat.div_eq_of_lt (Nat.lt_succ_of_le within), Nat.add_zero]

theorem key_injective (thread other : Thread) (within : thread.place ≤ line.size)
    (inside : other.place ≤ line.size) (same : key line thread = key line other) :
    thread = other := by
  have instrs : thread.instr = other.instr := by
    rw [← key_div thread within, same, key_div other inside]
  have places : thread.place = other.place := by
    unfold key at same
    rw [instrs] at same
    exact Nat.add_left_cancel same
  cases thread
  cases other
  simp_all only

theorem key_lt (thread : Thread) (within : thread.place ≤ line.size)
    (laid : thread.instr < program.size) : key line thread < program.size * (line.size + 1) := by
  calc
    key line thread < thread.instr * (line.size + 1) + (line.size + 1) :=
      Nat.add_lt_add_left (Nat.lt_succ_of_le within) _
    _ = (thread.instr + 1) * (line.size + 1) := (Nat.succ_mul _ _).symm
    _ ≤ program.size * (line.size + 1) := Nat.mul_le_mul_right _ laid

def unseen (program : Program) (line : Array Char) (seen : Std.HashSet Nat) : Nat :=
  ((Finset.range (program.size * (line.size + 1))).filter (· ∉ seen)).card

theorem unseen_le (seen : Std.HashSet Nat) :
    unseen program line seen ≤ program.size * (line.size + 1) := by
  exact (Finset.card_filter_le _ _).trans (Finset.card_range _).le

theorem unseen_insert_lt (seen : Std.HashSet Nat) (number : Nat) (fresh : number ∉ seen)
    (below : number < program.size * (line.size + 1)) :
    unseen program line (seen.insert number) < unseen program line seen := by
  apply Finset.card_lt_card
  apply Finset.ssubset_iff_of_subset ?_ |>.mpr
  · refine ⟨number, ?_, ?_⟩
    · simp [fresh, below]
    · simp
  · intro other member
    simp only [Finset.mem_filter, Std.HashSet.mem_insert, not_or] at member ⊢
    exact ⟨member.1, member.2.2⟩

/-- What a search that found nothing leaves behind. -/
structure Exhausted (program : Program) (line : Array Char) (seen : Std.HashSet Nat)
    (waiting : List Thread) (after : Std.HashSet Nat) : Prop where
  closed : Closed program line after []
  kept : ∀ number ∈ seen, number ∈ after
  tried : ∀ thread ∈ waiting, Settled program line after thread

theorem Closed.of_settled {seen : Std.HashSet Nat} {thread : Thread} {waiting : List Thread}
    (closed : Closed program line seen (thread :: waiting))
    (known : Settled program line seen thread) : Closed program line seen waiting := by
  intro other within also instr here
  obtain ⟨goesOn, follows⟩ := closed other within also instr here
  refine ⟨goesOn, fun next member => ?_⟩
  rcases follows next member with settled | waits
  · exact .inl settled
  · rcases List.mem_cons.mp waits with rfl | waits
    · exact .inl known
    · exact .inr waits

theorem Closed.of_entered {seen : Std.HashSet Nat} {thread : Thread} {waiting : List Thread}
    {instr : Instr} (closed : Closed program line seen (thread :: waiting))
    (inside : thread.place ≤ line.size) (here : program[thread.instr]? = some instr)
    (goesOn : instr ≠ .accept) :
    Closed program line (seen.insert (key line thread))
      (successors instr line thread.place ++ waiting) := by
  intro other within known found there
  by_cases same : other = thread
  · subst same
    obtain rfl : instr = found := Option.some.inj (here.symm.trans there)
    exact ⟨goesOn, fun next member => .inr (List.mem_append_left _ member)⟩
  · have before : Seen line seen other := by
      rcases Std.HashSet.mem_insert.mp known with equal | was
      · exact absurd (key_injective thread other inside within (beq_iff_eq.mp equal)).symm same
      · exact was
    obtain ⟨proceeds, follows⟩ := closed other within before found there
    refine ⟨proceeds, fun next member => ?_⟩
    rcases follows next member with (lost | was) | waits
    · exact .inl (.inl lost)
    · exact .inl (.inr (Std.HashSet.mem_insert.mpr (.inr was)))
    · rcases List.mem_cons.mp waits with rfl | waits
      · exact .inl (.inr Std.HashSet.mem_insert_self)
      · exact .inr (List.mem_append_right _ waits)

theorem Exhausted.of_settled {seen after : Std.HashSet Nat} {thread : Thread}
    {waiting : List Thread} (exhausted : Exhausted program line seen waiting after)
    (known : Settled program line seen thread) :
    Exhausted program line seen (thread :: waiting) after where
  closed := exhausted.closed
  kept := exhausted.kept
  tried := List.forall_mem_cons.mpr ⟨known.imp_right (exhausted.kept _), exhausted.tried⟩

/-- Twice the threads not yet seen and the threads that wait: this number falls in every round, as
a thread that is entered lets at most two others wait. -/
theorem exhausted_of_explore (fuel : Nat) (seen : Std.HashSet Nat) (waiting : List Thread)
    (inside : ∀ thread ∈ waiting, thread.place ≤ line.size)
    (closed : Closed program line seen waiting)
    (enough : 2 * unseen program line seen + waiting.length ≤ fuel)
    (failed : (explore program line fuel seen waiting).1 = none) :
    Exhausted program line seen waiting (explore program line fuel seen waiting).2 := by
  fun_induction explore program line fuel seen waiting with
  | case1 waiting seen =>
    obtain rfl : waiting = [] := List.length_eq_zero_iff.mp (by omega)
    exact ⟨closed, fun _ member => member, by simp⟩
  | case2 fuel seen => exact ⟨closed, fun _ member => member, by simp⟩
  | case3 fuel seen thread waiting known ih =>
    have settled : Settled program line seen thread := .inr (Std.HashSet.contains_iff_mem.mp known)
    rw [List.length_cons] at enough
    exact (ih (List.forall_mem_cons.mp inside).2 (closed.of_settled settled) (by omega)
      failed).of_settled settled
  | case4 fuel seen thread waiting fresh absent ih =>
    have settled : Settled program line seen thread := .inl absent
    rw [List.length_cons] at enough
    exact (ih (List.forall_mem_cons.mp inside).2 (closed.of_settled settled) (by omega)
      failed).of_settled settled
  | case5 fuel seen thread waiting fresh accepts => cases failed
  | case6 fuel seen thread waiting fresh instr goesOn here ih =>
    obtain ⟨within, others⟩ := List.forall_mem_cons.mp inside
    have laid : thread.instr < program.size := (Array.getElem?_eq_some_iff.mp here).1
    have unknown : key line thread ∉ seen := by
      intro known
      exact fresh (Std.HashSet.contains_iff_mem.mpr known)
    have fewer := unseen_insert_lt seen _ unknown (key_lt thread within laid)
    have two : (successors instr line thread.place).length ≤ 2 :=
      length_successors_le instr thread.place
    have exhausted := ih ?_ (closed.of_entered within here goesOn) ?_ failed
    · refine ⟨exhausted.closed, ?_, List.forall_mem_cons.mpr ⟨.inr ?_, ?_⟩⟩
      · intro number member
        exact exhausted.kept number (Std.HashSet.mem_insert.mpr (.inr member))
      · exact exhausted.kept _ Std.HashSet.mem_insert_self
      · intro other member
        exact exhausted.tried other (List.mem_append_right _ member)
    · intro next member
      rcases List.mem_append.mp member with follows | waits
      · exact (successors_bounds instr thread.place next follows).2 within
      · exact others next waits
    · rw [List.length_cons] at enough
      rw [List.length_append]
      omega

theorem Closed.not_accepted {seen : Std.HashSet Nat} (closed : Closed program line seen [])
    (thread : Thread) (within : thread.place ≤ line.size)
    (settled : Settled program line seen thread) (stop : Nat) :
    ¬ Accepted program line thread stop := by
  rintro ⟨steps, run⟩
  induction run with
  | here thread accepts =>
    rcases settled with lost | known
    · rw [accepts] at lost
      cases lost
    · exact (closed thread within known .accept accepts).1 rfl
  | step steps thread next instr stop here member _ ih =>
    rcases settled with lost | known
    · rw [here] at lost
      cases lost
    · rcases (closed thread within known instr here).2 next member with settled | waits
      · exact ih ((successors_bounds instr thread.place next member).2 within) settled
      · cases waits

theorem closed_empty : Closed program line {} [] := by
  intro thread _ known
  exact absurd known Std.HashSet.not_mem_empty

theorem accepted_of_exploreAt (seen : Std.HashSet Nat) (start stop : Nat)
    (found : (exploreAt program line seen start).1 = some stop) :
    Accepted program line ⟨0, start⟩ stop := by
  obtain ⟨thread, member, accepted⟩ := accepted_of_explore _ seen _ stop found
  exact List.mem_singleton.mp member ▸ accepted

theorem not_accepted_of_exploreAt (seen : Std.HashSet Nat) (start : Nat)
    (within : start ≤ line.size) (closed : Closed program line seen [])
    (failed : (exploreAt program line seen start).1 = none) :
    Closed program line (exploreAt program line seen start).2 [] ∧
      ∀ stop, ¬ Accepted program line ⟨0, start⟩ stop := by
  have few : unseen program line seen ≤ program.size * (line.size + 1) := unseen_le seen
  have exhausted := exhausted_of_explore (fuel program line) seen [⟨0, start⟩]
    (by simpa using within) ?_ ?_ failed
  · exact ⟨exhausted.closed, exhausted.closed.not_accepted ⟨0, start⟩ within
      (exhausted.tried _ List.mem_cons_self)⟩
  · intro thread inside known instr here
    obtain ⟨goesOn, follows⟩ := closed thread inside known instr here
    exact ⟨goesOn, fun next member => .inl ((follows next member).resolve_right List.not_mem_nil)⟩
  · simp only [List.length_singleton, fuel, Nat.mul_assoc]
    omega

theorem matchesAt_iff (start : Nat) (within : start ≤ line.size) :
    matchesAt program line start = true ↔ ∃ stop, Accepted program line ⟨0, start⟩ stop := by
  rw [matchesAt, Option.isSome_iff_exists]
  constructor
  · rintro ⟨stop, found⟩
    exact ⟨stop, accepted_of_exploreAt {} start stop found⟩
  · rintro ⟨stop, accepted⟩
    by_contra none
    have failed : (exploreAt program line {} start).1 = Option.none := by
      simpa [Option.eq_none_iff_forall_ne_some] using none
    exact (not_accepted_of_exploreAt {} start within closed_empty failed).2 stop accepted

def Barren (program : Program) (line : Array Char) (start stop : Nat) : Prop :=
  ∀ place, start ≤ place → place < stop → ∀ last, ¬ Accepted program line ⟨0, place⟩ last

theorem searchFrom_some (count start : Nat) (seen : Std.HashSet Nat) (found : Stretch)
    (within : start + count ≤ line.size + 1) (closed : Closed program line seen [])
    (hit : searchFrom program line count start seen = some found) :
    start ≤ found.start ∧ found.start < start + count ∧
      Accepted program line ⟨0, found.start⟩ found.stop ∧
        Barren program line start found.start := by
  fun_induction searchFrom program line count start seen with
  | case1 => cases hit
  | case2 count start seen stop after here =>
    cases hit
    refine ⟨Nat.le_refl start, Nat.lt_add_of_pos_right (Nat.succ_pos count),
      accepted_of_exploreAt seen start stop (by rw [here]), ?_⟩
    intro place above below
    exact absurd (Nat.lt_of_le_of_lt above below) (Nat.lt_irrefl start)
  | case3 count start seen after here ih =>
    have failed : (exploreAt program line seen start).1 = none := by rw [here]
    have next := not_accepted_of_exploreAt seen start (by omega) closed failed
    rw [here] at next
    obtain ⟨above, below, accepted, barren⟩ := ih (by omega) next.1 hit
    refine ⟨by omega, by omega, accepted, ?_⟩
    intro place from' until'
    rcases Nat.eq_or_lt_of_le from' with rfl | later
    · exact next.2
    · exact barren place later until'

theorem searchFrom_none (count start : Nat) (seen : Std.HashSet Nat)
    (within : start + count ≤ line.size + 1) (closed : Closed program line seen [])
    (missed : searchFrom program line count start seen = none) :
    Barren program line start (start + count) := by
  fun_induction searchFrom program line count start seen with
  | case1 count start =>
    intro place above below
    omega
  | case2 => cases missed
  | case3 count start seen after here ih =>
    have failed : (exploreAt program line seen start).1 = none := by rw [here]
    have next := not_accepted_of_exploreAt seen start (by omega) closed failed
    rw [here] at next
    have barren := ih (by omega) next.1 missed
    intro place above below
    rcases Nat.eq_or_lt_of_le above with rfl | later
    · exact next.2
    · exact barren place later (by omega)

end PatternLint.Regex.Program
