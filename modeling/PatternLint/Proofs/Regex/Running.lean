import PatternLint.Proofs.Regex.Matching
import PatternLint.Regex.Search

/-!
What a program accepts. Code that is entered at `base` and left towards `next` carries a relation
between places if every accepting run from `base` passes `next` behind such a pair, and every such
pair can be passed: `Carries`. The code of an expression carries the matches of the expression.
-/

namespace PatternLint.Regex

namespace Program

/-- The thread reaches acceptance after so many steps, and stops at `stop`. -/
inductive Accepts (program : Program) (line : Array Char) :
    (steps : Nat) → Thread → (stop : Nat) → Prop where
  | here (thread : Thread) :
    program[thread.instr]? = some .accept → Accepts program line 0 thread thread.place
  | step (steps : Nat) (thread next : Thread) (instr : Instr) (stop : Nat) :
    program[thread.instr]? = some instr → next ∈ successors instr line thread.place →
      Accepts program line steps next stop → Accepts program line (steps + 1) thread stop

def Accepted (program : Program) (line : Array Char) (thread : Thread) (stop : Nat) : Prop :=
  ∃ steps, Accepts program line steps thread stop

def Holds (program : Program) : (base : Nat) → List Instr → Prop
  | _, [] => True
  | base, instr :: code => program[base]? = some instr ∧ Holds program (base + 1) code

/-- What is entered at `base` is left towards `next` behind a pair of the relation. Runs get no
longer by that, which is what a loop needs. -/
structure Carries (program : Program) (line : Array Char) (base next : Nat)
    (relation : Nat → Nat → Prop) : Prop where
  sound : ∀ steps start stop, Accepts program line steps ⟨base, start⟩ stop →
    ∃ left middle, left ≤ steps ∧ relation start middle ∧
      Accepts program line left ⟨next, middle⟩ stop
  complete : ∀ start middle stop, relation start middle →
    Accepted program line ⟨next, middle⟩ stop → Accepted program line ⟨base, start⟩ stop

variable {program : Program} {line : Array Char}

theorem accepts_iff_of_instr (instr : Instr) (thread : Thread) (stop steps : Nat)
    (here : program[thread.instr]? = some instr) (goesOn : instr ≠ .accept) :
    Accepts program line steps thread stop ↔
      ∃ left next, steps = left + 1 ∧ next ∈ successors instr line thread.place ∧
        Accepts program line left next stop := by
  constructor
  · intro run
    cases run with
    | here _ accepts =>
      rw [here] at accepts
      exact absurd (Option.some.inj accepts) goesOn
    | step left _ next other _ found member run =>
      rw [here] at found
      cases found
      exact ⟨left, next, rfl, member, run⟩
  · rintro ⟨left, next, rfl, member, run⟩
    exact .step left thread next instr stop here member run

theorem accepted_of_successor (instr : Instr) (thread next : Thread) (stop : Nat)
    (here : program[thread.instr]? = some instr)
    (member : next ∈ successors instr line thread.place) (run : Accepted program line next stop) :
    Accepted program line thread stop := by
  obtain ⟨steps, run⟩ := run
  exact ⟨steps + 1, .step steps thread next instr stop here member run⟩

theorem fork_ne_accept (greedy : Bool) (body next : Nat) :
    Expr.fork greedy body next ≠ .accept := by
  cases greedy <;> simp [Expr.fork]

theorem mem_successors_fork (greedy : Bool) (body next place : Nat) (thread : Thread) :
    thread ∈ successors (Expr.fork greedy body next) line place ↔
      thread = ⟨body, place⟩ ∨ thread = ⟨next, place⟩ := by
  cases greedy <;> simp [Expr.fork, successors, or_comm]

theorem accepted_of_fork {base body next : Nat} (greedy : Bool)
    (here : program[base]? = some (Expr.fork greedy body next)) (start stop : Nat)
    (run : Accepted program line ⟨body, start⟩ stop ∨ Accepted program line ⟨next, start⟩ stop) :
    Accepted program line ⟨base, start⟩ stop := by
  rcases run with run | run
  · apply accepted_of_successor _ ⟨base, start⟩ ⟨body, start⟩ stop here _ run
    exact (mem_successors_fork greedy body next start _).mpr (.inl rfl)
  · apply accepted_of_successor _ ⟨base, start⟩ ⟨next, start⟩ stop here _ run
    exact (mem_successors_fork greedy body next start _).mpr (.inr rfl)

theorem holds_append_iff (base : Nat) (first second : List Instr) :
    Holds program base (first ++ second) ↔
      Holds program base first ∧ Holds program (base + first.length) second := by
  induction first generalizing base with
  | nil => simp [Holds]
  | cons instr first ih =>
    have shift : base + (first.length + 1) = base + 1 + first.length := by omega
    simp only [List.cons_append, Holds, ih, List.length_cons, shift, and_assoc]

theorem holds_toArray (before code : List Instr) :
    Holds (before ++ code).toArray before.length code := by
  induction code generalizing before with
  | nil => trivial
  | cons instr code ih =>
    refine ⟨by simp, ?_⟩
    have later := ih (before ++ [instr])
    simpa using later

namespace Carries

variable {base middle next other : Nat} {relation first second : Nat → Nat → Prop}

theorem congr (carries : Carries program line base next first)
    (same : ∀ start stop, first start stop ↔ second start stop) :
    Carries program line base next second where
  sound := by
    intro steps start stop run
    obtain ⟨left, place, shorter, related, run⟩ := carries.sound steps start stop run
    exact ⟨left, place, shorter, (same start place).mp related, run⟩
  complete := by
    intro start place stop related run
    exact carries.complete start place stop ((same start place).mpr related) run

theorem refl (base : Nat) : Carries program line base base Eq where
  sound := fun steps start _ run => ⟨steps, start, Nat.le_refl steps, rfl, run⟩
  complete := by
    rintro start place stop rfl run
    exact run

theorem trans (before : Carries program line base middle first)
    (after : Carries program line middle next second) :
    Carries program line base next fun start stop =>
      ∃ place, first start place ∧ second place stop where
  sound := by
    intro steps start stop run
    obtain ⟨some, place, fewer, related, run⟩ := before.sound steps start stop run
    obtain ⟨left, end', least, also, run⟩ := after.sound some place stop run
    exact ⟨left, end', Nat.le_trans least fewer, ⟨place, related, also⟩, run⟩
  complete := by
    rintro start place stop ⟨between, related, also⟩ run
    exact before.complete start between stop related (after.complete between place stop also run)

theorem jump (here : program[base]? = some (.jump next)) : Carries program line base next Eq where
  sound := by
    intro steps start stop run
    obtain ⟨left, thread, rfl, member, run⟩ :=
      (accepts_iff_of_instr _ _ stop steps here (by simp)).mp run
    obtain rfl := List.mem_singleton.mp member
    exact ⟨left, start, Nat.le_succ left, rfl, run⟩
  complete := by
    rintro start place stop rfl run
    exact accepted_of_successor _ _ _ stop here (List.mem_singleton.mpr rfl) run

theorem take (set : CodeSet) (here : program[base]? = some (.take set next)) :
    Carries program line base next (Expr.Matches line (.set set)) where
  sound := by
    intro steps start stop run
    obtain ⟨left, thread, rfl, member, run⟩ :=
      (accepts_iff_of_instr _ _ stop steps here (by simp)).mp run
    simp only [successors] at member
    split at member
    · rename_i char stands
      split at member
      · rename_i contained
        obtain rfl := List.mem_singleton.mp member
        exact ⟨left, start + 1, Nat.le_succ left, .set set start char stands contained, run⟩
      · cases member
    · cases member
  complete := by
    intro start place stop related run
    obtain ⟨rfl, char, stands, contained⟩ := (Expr.matches_set_iff line start place set).mp related
    refine accepted_of_successor _ _ _ stop here ?_ run
    simp [successors, stands, contained]

theorem look (look : Look) (here : program[base]? = some (.look look next)) :
    Carries program line base next (Expr.Matches line (.look look)) where
  sound := by
    intro steps start stop run
    obtain ⟨left, thread, rfl, member, run⟩ :=
      (accepts_iff_of_instr _ _ stop steps here (by simp)).mp run
    simp only [successors] at member
    split at member
    · rename_i holds
      obtain rfl := List.mem_singleton.mp member
      exact ⟨left, start, Nat.le_succ left, .look look start holds, run⟩
    · cases member
  complete := by
    intro start place stop related run
    obtain ⟨rfl, holds⟩ := (Expr.matches_look_iff line start place look).mp related
    refine accepted_of_successor _ _ _ stop here ?_ run
    simp [successors, holds]

theorem fork (greedy : Bool) (here : program[base]? = some (Expr.fork greedy middle other))
    (into : Carries program line middle next first)
    (past : Carries program line other next second) :
    Carries program line base next fun start stop => first start stop ∨ second start stop where
  sound := by
    intro steps start stop run
    obtain ⟨left, thread, rfl, member, run⟩ :=
      (accepts_iff_of_instr _ _ stop steps here (fork_ne_accept greedy middle other)).mp run
    rcases (mem_successors_fork greedy middle other start thread).mp member with rfl | rfl
    · obtain ⟨rest, place, fewer, related, run⟩ := into.sound left start stop run
      exact ⟨rest, place, Nat.le_succ_of_le fewer, .inl related, run⟩
    · obtain ⟨rest, place, fewer, related, run⟩ := past.sound left start stop run
      exact ⟨rest, place, Nat.le_succ_of_le fewer, .inr related, run⟩
  complete := by
    rintro start place stop (related | related) run
    · have run := into.complete start place stop related run
      exact accepted_of_fork greedy here start stop (.inl run)
    · have run := past.complete start place stop related run
      exact accepted_of_fork greedy here start stop (.inr run)

theorem loop (greedy : Bool) (here : program[base]? = some (Expr.fork greedy middle next))
    (body : Carries program line middle base relation) :
    Carries program line base next fun start stop => ∃ count, Times relation count start stop where
  sound := by
    intro steps
    -- The body comes back with fewer steps left than the loop was entered with.
    induction steps using Nat.strongRecOn with
    | ind steps ih =>
      intro start stop run
      obtain ⟨left, thread, rfl, member, run⟩ :=
        (accepts_iff_of_instr _ _ stop steps here (fork_ne_accept greedy middle next)).mp run
      rcases (mem_successors_fork greedy middle next start thread).mp member with rfl | rfl
      · obtain ⟨back, place, fewer, related, run⟩ := body.sound left start stop run
        obtain ⟨rest, last, least, ⟨count, times⟩, run⟩ :=
          ih back (Nat.lt_succ_of_le fewer) place stop run
        exact ⟨rest, last, by omega, ⟨count + 1, place, related, times⟩, run⟩
      · exact ⟨left, start, Nat.le_succ left, ⟨0, rfl⟩, run⟩
  complete := by
    rintro start place stop ⟨count, times⟩ run
    induction count generalizing start with
    | zero =>
      obtain rfl : start = place := times
      exact accepted_of_fork greedy here start stop (.inr run)
    | succ count ih =>
      obtain ⟨between, related, later⟩ := times
      have again := body.complete start between stop related (ih between later)
      exact accepted_of_fork greedy here start stop (.inl again)

end Carries

end Program

end PatternLint.Regex
