import PatternLint.Proofs.Regex.Counted
import PatternLint.Proofs.Regex.Successive
import PatternLint.Proofs.Rule.Compiling
import PatternLint.Text.Line

namespace PatternLint

namespace Regex

variable (pattern : String) (regex : Regex) (line : Array Char)

theorem acceptsBetween_of_compile (compiled : compile pattern = .ok regex) :
    Program.AcceptsBetween regex.program line = regex.expr.Matches line := by
  have counted := Expr.counted_of_ofPattern pattern _ (expr_of_compile pattern regex compiled)
  funext start stop
  rw [Program.AcceptsBetween, regex.program_eq]
  exact propext (Program.accepted_ofExpr_iff line regex.expr counted start stop)

theorem findAll_successive (compiled : compile pattern = .ok regex) :
    Successive (regex.expr.Matches line) line.size 0 none (regex.findAll line) := by
  rw [← acceptsBetween_of_compile pattern regex line compiled]
  exact regex.program.findAll_successive line

theorem matchesAt_iff_matches (compiled : compile pattern = .ok regex) (start : Nat)
    (within : start ≤ line.size) :
    regex.matchesAt line start = true ↔ ∃ stop, regex.expr.Matches line start stop := by
  rw [← acceptsBetween_of_compile pattern regex line compiled]
  exact Program.matchesAt_iff start within

end Regex

namespace Text

theorem byteOffsets_append_singleton (line : List Char) (char : Char) :
    byteOffsets (line ++ [char]).toArray =
      (byteOffsets line.toArray).push
        ((byteOffsets line.toArray).back?.getD 0 + char.utf8Size) := by
  simp [byteOffsets]

theorem byteOffsets_toArray (line : List Char) :
    byteOffsets line.toArray =
      ((List.range (line.length + 1)).map fun place =>
        (String.ofList (line.take place)).utf8ByteSize).toArray := by
  induction line using List.reverseRecOn with
  | nil => rfl
  | append_singleton line char ih =>
    have kept : ∀ place ∈ List.range (line.length + 1),
        (String.ofList ((line ++ [char]).take place)).utf8ByteSize =
          (String.ofList (line.take place)).utf8ByteSize := by
      intro place member
      rw [List.take_append_of_le_length (Nat.le_of_lt_succ (List.mem_range.mp member))]
    have whole : (line ++ [char]).take (line.length + 1) = line ++ [char] :=
      List.take_of_length_le (by simp)
    rw [byteOffsets_append_singleton, ih, List.length_append, List.length_singleton,
      List.range_succ (n := line.length + 1), List.map_append, List.map_congr_left kept]
    simp [List.range_succ, whole]

theorem getElem?_byteOffsets (line : Array Char) (place : Nat) (within : place ≤ line.size) :
    (byteOffsets line)[place]? = some (String.ofList (line.toList.take place)).utf8ByteSize := by
  have offsets := byteOffsets_toArray line.toList
  rw [Array.toArray_toList, Array.length_toList] at offsets
  rw [offsets, List.getElem?_toArray, List.getElem?_map, List.getElem?_range (by omega)]
  rfl

end Text

namespace Regex.Stretch

variable (stretch : Stretch) (line : Array Char)

theorem take_append_text (ordered : stretch.start ≤ stretch.stop) :
    line.toList.take stretch.start ++ (stretch.text line).toList =
      line.toList.take stretch.stop := by
  rw [text, String.toList_ofList, Array.toList_extract, List.extract_eq_take_drop,
    ← List.take_add, Nat.add_sub_cancel' ordered]

/-- A stretch cuts the bytes of a line where a character begins or the line ends. -/
theorem spans (ordered : stretch.start ≤ stretch.stop) (inside : stretch.stop ≤ line.size) :
    ∃ before after, String.ofList line.toList = before ++ stretch.text line ++ after ∧
      (Text.byteOffsets line)[stretch.start]? = some before.utf8ByteSize ∧
      (Text.byteOffsets line)[stretch.stop]? = some (before ++ stretch.text line).utf8ByteSize := by
  have reached : String.ofList (line.toList.take stretch.start) ++ stretch.text line =
      String.ofList (line.toList.take stretch.stop) := by
    rw [← stretch.take_append_text line ordered, String.ofList_append, String.ofList_toList]
  refine ⟨String.ofList (line.toList.take stretch.start),
    String.ofList (line.toList.drop stretch.stop), ?_, ?_, ?_⟩
  · rw [reached, ← String.ofList_append, List.take_append_drop]
  · exact Text.getElem?_byteOffsets line stretch.start (Nat.le_trans ordered inside)
  · rw [reached]
    exact Text.getElem?_byteOffsets line stretch.stop inside

end Regex.Stretch

namespace Rule

variable (spec : RuleSpec) (rule : Rule) (line : Array Char)

structure Finding (found : Regex.Stretch) : Prop where
  filled : found.start < found.stop
  inside : found.stop ≤ line.size
  spans : ∃ before after, String.ofList line.toList = before ++ found.text line ++ after ∧
    (Text.byteOffsets line)[found.start]? = some before.utf8ByteSize ∧
    (Text.byteOffsets line)[found.stop]? = some (before ++ found.text line).utf8ByteSize
  holds : rule.pattern.expr.Matches line found.start found.stop
  kept : rule.isAllowed line found.start = false

def Filled : Prop := ∀ place ≤ line.size, ¬ rule.pattern.expr.Matches line place place

/-- How the report of a rule on a line follows from the matches of the patterns it was given. -/
structure Findings : Prop where
  meaning : Regex.Expr.ofPattern spec.pattern = .ok rule.pattern.expr
  excuses : List.Forall₂ (fun text allowing => Regex.Expr.ofPattern text = .ok allowing.expr)
    spec.allow rule.allow
  allowed : ∀ start ≤ line.size, rule.isAllowed line start = true ↔
    ∃ allowing ∈ rule.allow, ∃ stop, allowing.expr.Matches line start stop
  sound : ∀ found ∈ rule.findIn line, Finding rule line found
  apart : (rule.findIn line).Pairwise fun one other =>
    one.start < other.start ∧ one.stop ≤ other.start
  successive : Regex.Successive (rule.pattern.expr.Matches line) line.size 0 none
    (rule.pattern.findAll line)
  complete : rule.Filled line → ∀ start ≤ line.size, ∀ stop,
    rule.pattern.expr.Matches line start stop →
      ∃ found ∈ rule.pattern.findAll line, found.start ≤ start ∧ start < found.stop ∧
        (found ∈ rule.findIn line ∨ rule.isAllowed line found.start = true)
  clean : rule.Filled line → rule.allow = [] →
    (rule.findIn line = [] ↔
      ∀ start ≤ line.size, ∀ stop, ¬ rule.pattern.expr.Matches line start stop)

variable {spec rule}

theorem isAllowed_iff (compiled : compile spec = .ok rule) (start : Nat)
    (within : start ≤ line.size) :
    rule.isAllowed line start = true ↔
      ∃ allowing ∈ rule.allow, ∃ stop, allowing.expr.Matches line start stop := by
  rw [isAllowed, List.any_eq_true]
  refine exists_congr fun allowing => and_congr_right fun member => ?_
  obtain ⟨text, _, made⟩ :=
    exists_item_of_mem Regex.compile (parts_of_compile compiled).2 allowing member
  exact Regex.matchesAt_iff_matches text allowing line made start within

theorem finding_of_mem (compiled : compile spec = .ok rule) (found : Regex.Stretch)
    (member : found ∈ rule.findIn line) : Finding rule line found := by
  obtain ⟨present, _, kept⟩ := (rule.mem_findIn_iff line found).mp member
  obtain ⟨filled, inside⟩ := rule.findIn_bounds line found member
  have successive :=
    Regex.findAll_successive spec.pattern rule.pattern line (parts_of_compile compiled).1
  refine ⟨filled, inside, found.spans line filled.le inside, ?_, kept⟩
  exact (successive.member (fun _ _ matched => matched.bounds) found present).2.2.2

/-- Where no match is empty, the successive matches leave no match out, and of these only the
excused ones are not reported. -/
theorem covered (compiled : compile spec = .ok rule) (filled : rule.Filled line) (start stop : Nat)
    (within : start ≤ line.size) (matched : rule.pattern.expr.Matches line start stop) :
    ∃ found ∈ rule.pattern.findAll line, found.start ≤ start ∧ start < found.stop ∧
      (found ∈ rule.findIn line ∨ rule.isAllowed line found.start = true) := by
  have successive :=
    Regex.findAll_successive spec.pattern rule.pattern line (parts_of_compile compiled).1
  obtain ⟨found, member, before, after⟩ :=
    successive.covers filled start stop (Nat.zero_le start) within matched
  refine ⟨found, member, before, after, ?_⟩
  by_cases allowed : rule.isAllowed line found.start = true
  · exact .inr allowed
  · refine .inl ((rule.mem_findIn_iff line found).mpr ⟨member, by omega, ?_⟩)
    exact Bool.eq_false_iff.mpr allowed

theorem findIn_eq_nil_iff (compiled : compile spec = .ok rule) (filled : rule.Filled line)
    (strict : rule.allow = []) :
    rule.findIn line = [] ↔
      ∀ start ≤ line.size, ∀ stop, ¬ rule.pattern.expr.Matches line start stop := by
  constructor
  · intro nothing start within stop matched
    obtain ⟨found, _, _, _, reported | allowed⟩ :=
      covered line compiled filled start stop within matched
    · rw [nothing] at reported
      cases reported
    · rw [isAllowed, strict] at allowed
      cases allowed
  · intro nowhere
    refine List.eq_nil_iff_forall_not_mem.mpr fun found member => ?_
    have finding := finding_of_mem line compiled found member
    exact nowhere found.start (finding.filled.le.trans finding.inside) found.stop finding.holds

theorem findIn_of_char {char : Char} (compiled : compile spec = .ok rule) (strict : rule.allow = [])
    (consumes : rule.pattern.expr.consumes = true)
    (matched : rule.pattern.expr.Matches #[char] 0 1) : rule.findIn #[char] = [⟨0, 1⟩] := by
  have filled : rule.Filled #[char] := by
    intro place _ matched
    exact absurd (matched.lt_of_consumes consumes) (Nat.lt_irrefl place)
  have only : ∀ found ∈ rule.findIn #[char], found = ⟨0, 1⟩ := by
    rintro ⟨start, stop⟩ member
    obtain ⟨some, inside⟩ := rule.findIn_bounds #[char] ⟨start, stop⟩ member
    simp only [List.size_toArray, List.length_singleton] at some inside
    obtain ⟨rfl, rfl⟩ : start = 0 ∧ stop = 1 := by omega
    rfl
  have present : rule.findIn #[char] ≠ [] := by
    rw [ne_eq, findIn_eq_nil_iff #[char] compiled filled strict]
    exact fun nowhere => nowhere 0 (Nat.zero_le _) 1 matched
  have apart := rule.findIn_pairwise #[char]
  cases whole : rule.findIn #[char] with
  | nil => exact absurd whole present
  | cons first rest =>
    rw [whole] at only apart
    obtain ⟨rfl, others⟩ := List.forall_mem_cons.mp only
    cases rest with
    | nil => rfl
    | cons next rest =>
      have behind := List.rel_of_pairwise_cons apart List.mem_cons_self
      rw [others next List.mem_cons_self] at behind
      exact absurd behind (Nat.lt_irrefl 0)

/-- The empty pattern matches nothing but empty stretches, which are not reported. -/
theorem findIn_of_empty_pattern (compiled : compile spec = .ok rule) (empty : spec.pattern = "") :
    rule.findIn line = [] := by
  have read := Regex.expr_of_compile _ _ (parts_of_compile compiled).1
  rw [empty] at read
  have expr : Regex.Expr.empty = rule.pattern.expr := Except.ok.inj read
  refine List.eq_nil_iff_forall_not_mem.mpr fun found member => ?_
  have finding := finding_of_mem line compiled found member
  have holds := finding.holds
  rw [← expr, Regex.Expr.matches_empty_iff] at holds
  exact Nat.ne_of_lt finding.filled holds

/-- Nothing is reported that should not be, and nothing is missed but what is excused. -/
theorem findIn_misses_nothing (spec : RuleSpec) (rule : Rule) (line : Array Char)
    (compiled : compile spec = .ok rule) : Findings spec rule line where
  meaning := Regex.expr_of_compile _ _ (parts_of_compile compiled).1
  excuses := (parts_of_compile compiled).2.imp Regex.expr_of_compile
  allowed := isAllowed_iff line compiled
  sound := finding_of_mem line compiled
  apart := (rule.findIn_pairwise line).and (rule.findIn_apart line)
  successive := Regex.findAll_successive _ _ line (parts_of_compile compiled).1
  complete filled start within stop matched :=
    covered line compiled filled start stop within matched
  clean := findIn_eq_nil_iff line compiled

theorem findings_of_run_of_x :
    ∃ rule, compile ⟨"x+", none, ["xx"]⟩ = .ok rule ∧
      ∀ line, Findings ⟨"x+", none, ["xx"]⟩ rule line ∧ rule.Filled line := by
  refine ⟨_, rfl, fun line => ⟨findIn_misses_nothing _ _ line rfl, ?_⟩⟩
  intro place _ matched
  exact absurd (matched.lt_of_consumes rfl) (Nat.lt_irrefl place)

end Rule

end PatternLint
