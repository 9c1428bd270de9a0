import PatternLint.Proofs.Rule.Finding

/-!
What allowing patterns do: a match is excused where one of them matches from its start on, and
nothing else about the matches changes. Whether a pattern matches from a place on is also what a
search from that place tells by the start of its first match.
-/

namespace PatternLint

theorem Regex.matchesAt_eq_search (regex : Regex) (line : Array Char) (start : Nat)
    (within : start ≤ line.size) :
    regex.matchesAt line start =
      (regex.program.search line start).any fun found => found.start == start := by
  rw [Bool.eq_iff_iff, Regex.matchesAt, Program.matchesAt_iff start within, Option.any_eq_true]
  constructor
  · rintro ⟨stop, accepted⟩
    cases search : regex.program.search line start with
    | none =>
      exact absurd accepted
        (Program.none_of_search _ line start (by omega) search start (Nat.le_refl start) within
          stop)
    | some found =>
      have leftmost := Program.leftmost_of_search _ line start found (by omega) search
      refine ⟨found, rfl, beq_iff_eq.mpr ?_⟩
      -- A first match that began later would have left out the one from `start` on.
      by_contra later
      have ahead := leftmost.ahead
      exact leftmost.first start (Nat.le_refl start) (by omega) stop accepted
  · rintro ⟨found, search, here⟩
    have leftmost := Program.leftmost_of_search _ line start found (by omega) search
    rw [beq_iff_eq] at here
    exact ⟨found.stop, here ▸ leftmost.holds⟩

namespace Rule

/-- One of the patterns matches from a place on, be it nothing, with the whole line in view. -/
def Excused (patterns : List String) (line : Array Char) (start : Nat) : Prop :=
  ∃ pattern ∈ patterns, ∃ expr, Regex.Expr.ofPattern pattern = .ok expr ∧
    ∃ stop, expr.Matches line start stop

theorem excused_append_iff (first second : List String) (line : Array Char) (start : Nat) :
    Excused (first ++ second) line start ↔
      Excused first line start ∨ Excused second line start := by
  simp only [Excused, List.mem_append, or_and_right, exists_or]

theorem excused_congr {first second : List String} (same : ∀ text, text ∈ first ↔ text ∈ second)
    (line : Array Char) (start : Nat) : Excused first line start ↔ Excused second line start := by
  simp only [Excused, same]

variable {spec : RuleSpec} {rule : Rule}

theorem isAllowed_iff_excused (compiled : compile spec = .ok rule) (line : Array Char) (start : Nat)
    (within : start ≤ line.size) :
    rule.isAllowed line start = true ↔ Excused spec.allow line start := by
  have values := exists_value_iff Regex.compile (parts_of_compile compiled).2 fun allowing =>
    ∃ stop, allowing.expr.Matches line start stop
  rw [isAllowed_iff line compiled start within, values, Excused]
  refine exists_congr fun text => and_congr_right fun member => ?_
  constructor
  · rintro ⟨allowing, passed, stop, matched⟩
    exact ⟨allowing.expr, Regex.expr_of_compile text allowing passed, stop, matched⟩
  · rintro ⟨expr, meaning, stop, matched⟩
    obtain ⟨allowing, passed⟩ :=
      (compiles_iff spec).mp ⟨rule, compiled⟩ text (List.mem_cons_of_mem _ member)
    have same : expr = allowing.expr :=
      Except.ok.inj (meaning.symm.trans (Regex.expr_of_compile text allowing passed))
    exact ⟨allowing, passed, stop, same ▸ matched⟩

theorem isAllowed_eq_search (rule : Rule) (line : Array Char) (start : Nat)
    (within : start ≤ line.size) :
    rule.isAllowed line start = rule.allow.any fun allowing =>
      (allowing.program.search line start).any fun found => found.start == start := by
  simp only [isAllowed, Regex.matchesAt_eq_search _ line start within]

open Classical in
theorem findIn_eq_filter (compiled : compile spec = .ok rule) (line : Array Char) :
    rule.findIn line = (rule.pattern.findAll line).filter fun found =>
      found.start ≠ found.stop ∧ ¬ Excused spec.allow line found.start := by
  have successive :=
    Regex.findAll_successive spec.pattern rule.pattern line (parts_of_compile compiled).1
  refine List.filter_congr fun found member => ?_
  obtain ⟨_, ordered, inside, _⟩ :=
    successive.member (fun _ _ matched => matched.bounds) found member
  have excused := isAllowed_iff_excused compiled line found.start (ordered.trans inside)
  rw [Bool.eq_iff_iff]
  simp [← excused]

theorem pattern_eq_of_compile {other : RuleSpec} {second : Rule}
    (compiled : compile spec = .ok rule) (made : compile other = .ok second)
    (same : spec.pattern = other.pattern) : rule.pattern = second.pattern := by
  have one := (parts_of_compile compiled).1
  have two := (parts_of_compile made).1
  rw [same, two] at one
  exact (Except.ok.inj one).symm

section Lists

variable (pattern : String) (message : Option String) (first second : List String)

open Classical in
theorem findIn_append (compiled : compile ⟨pattern, message, first ++ second⟩ = .ok rule) :
    ∃ fewer, compile ⟨pattern, message, first⟩ = .ok fewer ∧ ∀ line : Array Char,
      rule.findIn line =
        (fewer.findIn line).filter fun found => ¬ Excused second line found.start := by
  have passes := (compiles_iff _).mp ⟨rule, compiled⟩
  have kept : pattern :: first ⊆ pattern :: (first ++ second) :=
    List.cons_subset_cons pattern (List.subset_append_left first second)
  obtain ⟨fewer, made⟩ := (compiles_iff ⟨pattern, message, first⟩).mpr fun text member =>
    passes text (kept member)
  refine ⟨fewer, made, fun line => ?_⟩
  rw [findIn_eq_filter compiled, findIn_eq_filter made, List.filter_filter,
    pattern_eq_of_compile compiled made rfl]
  refine List.filter_congr fun found _ => ?_
  simp only [excused_append_iff, Bool.decide_and, not_or, ← and_assoc]
  rw [Bool.and_comm]

theorem findIn_congr (compiled : compile ⟨pattern, message, first⟩ = .ok rule)
    (members : ∀ text, text ∈ first ↔ text ∈ second) :
    ∃ other, compile ⟨pattern, message, second⟩ = .ok other ∧
      ∀ line : Array Char, rule.findIn line = other.findIn line := by
  have passes := (compiles_iff _).mp ⟨rule, compiled⟩
  have kept : pattern :: second ⊆ pattern :: first :=
    List.cons_subset_cons pattern fun text => (members text).mpr
  obtain ⟨other, made⟩ := (compiles_iff ⟨pattern, message, second⟩).mpr fun text member =>
    passes text (kept member)
  refine ⟨other, made, fun line => ?_⟩
  rw [findIn_eq_filter compiled, findIn_eq_filter made, pattern_eq_of_compile compiled made rfl]
  refine List.filter_congr fun found _ => decide_eq_decide.mpr ?_
  rw [excused_congr members]

end Lists

open Classical in
/-- Allowing patterns excuse a match where one of them matches from its start on. More of them take
away what they excuse and leave the other matches as they are, so neither their order nor how often
they are given counts. -/
theorem allow_suppresses_exactly :
    (∀ spec rule, compile spec = .ok rule → ∀ line : Array Char, ∀ start ≤ line.size,
      (rule.isAllowed line start = true ↔ Excused spec.allow line start) ∧
        rule.isAllowed line start = rule.allow.any fun allowing =>
          (allowing.program.search line start).any fun found => found.start == start) ∧
    (∀ pattern message first second rule,
      compile ⟨pattern, message, first ++ second⟩ = .ok rule →
        ∃ fewer, compile ⟨pattern, message, first⟩ = .ok fewer ∧ ∀ line : Array Char,
          rule.findIn line =
            (fewer.findIn line).filter fun found => ¬ Excused second line found.start) ∧
    ∀ pattern message first second rule, compile ⟨pattern, message, first⟩ = .ok rule →
      (∀ text, text ∈ first ↔ text ∈ second) →
        ∃ other, compile ⟨pattern, message, second⟩ = .ok other ∧
          ∀ line : Array Char, rule.findIn line = other.findIn line := by
  refine ⟨?_, ?_, ?_⟩
  · intro spec rule compiled line start within
    exact ⟨isAllowed_iff_excused compiled line start within,
      rule.isAllowed_eq_search line start within⟩
  · intro pattern message first second rule compiled
    exact findIn_append pattern message first second compiled
  · intro pattern message first second rule compiled members
    exact findIn_congr pattern message first second compiled members

open Classical in
theorem allow_suppresses_xx :
    ∃ rule fewer other, compile ⟨"x+", none, ["y", "xx"]⟩ = .ok rule ∧
      compile ⟨"x+", none, ["y"]⟩ = .ok fewer ∧
      compile ⟨"x+", none, ["xx", "y", "xx"]⟩ = .ok other ∧
      ∀ line : Array Char,
        (rule.isAllowed line line.size = true ↔ Excused ["y", "xx"] line line.size) ∧
        rule.findIn line =
          ((fewer.findIn line).filter fun found => ¬ Excused ["xx"] line found.start) ∧
        rule.findIn line = other.findIn line := by
  obtain ⟨allowed, fewer, same⟩ := allow_suppresses_exactly
  obtain ⟨rule, compiled⟩ : ∃ rule, compile ⟨"x+", none, ["y", "xx"]⟩ = .ok rule := ⟨_, rfl⟩
  obtain ⟨less, made, filtered⟩ := fewer "x+" none ["y"] ["xx"] rule compiled
  obtain ⟨other, again, equal⟩ := same "x+" none ["y", "xx"] ["xx", "y", "xx"] rule compiled
    (by simp [or_comm])
  exact ⟨rule, less, other, compiled, made, again, fun line =>
    ⟨(allowed _ rule compiled line line.size (Nat.le_refl _)).1, filtered line, equal line⟩⟩

end Rule

end PatternLint
