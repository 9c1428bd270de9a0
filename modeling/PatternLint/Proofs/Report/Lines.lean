import PatternLint.Proofs.FileTree.Names
import PatternLint.Proofs.Run.Origins
import PatternLint.Proofs.Text.Line
import PatternLint.Proofs.Text.Number
import PatternLint.Report.Human

namespace PatternLint

namespace Text

theorem count_ended (mark : Char) (parts : List (List Char)) :
    (parts.flatMap (· ++ [mark])).count mark =
      parts.length + (parts.map fun part => part.count mark).sum := by
  induction parts with
  | nil => rfl
  | cons part rest ih =>
    rw [List.flatMap_cons, List.count_append, ih, List.count_append, List.map_cons, List.sum_cons,
      List.length_cons, List.count_singleton_self]
    omega

theorem notMem_append {char : Char} {one other : String} (first : char ∉ one.toList)
    (second : char ∉ other.toList) : char ∉ (one ++ other).toList := by
  rw [String.toList_append, List.mem_append, not_or]
  exact ⟨first, second⟩

theorem count_feed_toString (value : Nat) : (toString value).toList.count '\n' = 0 :=
  List.count_eq_zero.mpr (notMem_toString '\n' (by decide) value)

end Text

namespace Report

def plainLine (violation : Violation) : String :=
  location violation ++ ": " ++ violation.message

def plainLines (result : ScanResult) : List (List Char) :=
  (result.violations.map plainLine ++ [summary result]).map String.toList

/-- The report is made of just the lines that are meant. As each is ended by a line feed, nothing is
left behind the last. -/
def LineFaithful (result : ScanResult) : Prop :=
  Text.pieces '\n' (human false result).toList = plainLines result ++ [[]]

def feeds (violation : Violation) : Nat :=
  violation.path.toList.count '\n' + violation.message.toList.count '\n'

theorem toList_violationLine (violation : Violation) :
    (violationLine false violation).toList = (plainLine violation).toList ++ ['\n'] :=
  String.toList_append

theorem toList_summaryLine (result : ScanResult) :
    (summaryLine false result).toList = (summary result).toList ++ ['\n'] :=
  String.toList_append

theorem toList_human (result : ScanResult) :
    (human false result).toList = (plainLines result).flatMap (· ++ ['\n']) := by
  simp only [human, plainLines, String.toList_append, String.toList_join, List.flatMap_map,
    List.map_append, List.map_map, List.flatMap_append, toList_violationLine, toList_summaryLine,
    List.map_singleton, List.flatMap_singleton, Function.comp_apply]

theorem count_plainLine (violation : Violation) :
    (plainLine violation).toList.count '\n' = feeds violation := by
  simp only [plainLine, location, feeds, String.toList_append, List.count_append,
    Text.count_feed_toString]
  rfl

theorem notMem_summary (char : Char) (other : char.isDigit = false)
    (plain : char ∉ "-- Summary -- violations= files= skipped=".toList) (result : ScanResult) :
    char ∉ (summary result).toList := by
  have counted := Text.notMem_toString char other
  have labels : "-- Summary -- violations= files= skipped=".toList =
      "-- Summary -- violations=".toList ++ " files=".toList ++ " skipped=".toList := by decide
  rw [labels, List.mem_append, List.mem_append, not_or, not_or] at plain
  obtain ⟨⟨violations, files⟩, skipped⟩ := plain
  exact Text.notMem_append (Text.notMem_append (Text.notMem_append (Text.notMem_append
    (Text.notMem_append violations (counted _)) files) (counted _)) skipped) (counted _)

theorem feed_notMem_summary (result : ScanResult) : '\n' ∉ (summary result).toList :=
  notMem_summary '\n' (by decide) (by decide) result

theorem feed_notMem_plainLine_iff (violation : Violation) :
    '\n' ∉ (plainLine violation).toList ↔
      '\n' ∉ violation.path.toList ∧ '\n' ∉ violation.message.toList := by
  simp only [← List.count_eq_zero, count_plainLine, feeds, Nat.add_eq_zero_iff]

theorem lineFaithful_iff (result : ScanResult) :
    LineFaithful result ↔ ∀ violation ∈ result.violations,
      '\n' ∉ violation.path.toList ∧ '\n' ∉ violation.message.toList := by
  have last := feed_notMem_summary result
  rw [LineFaithful, toList_human, Text.pieces_ended_iff, plainLines, List.forall_mem_map]
  simp only [List.forall_mem_append, List.forall_mem_map, List.forall_mem_singleton,
    feed_notMem_plainLine_iff, and_iff_left last]

theorem counts_plainLines (result : ScanResult) :
    (plainLines result).map (fun line => line.count '\n') = result.violations.map feeds ++ [0] := by
  have last := List.count_eq_zero.mpr (feed_notMem_summary result)
  simp only [plainLines, List.map_append, List.map_map, List.map_singleton, last, Function.comp_def,
    count_plainLine]

theorem length_pieces_human (result : ScanResult) :
    (Text.pieces '\n' (human false result).toList).length =
      result.violations.length + 2 + (result.violations.map feeds).sum := by
  have meant : (plainLines result).length = result.violations.length + 1 := by simp [plainLines]
  rw [Text.length_pieces, toList_human, Text.count_ended, counts_plainLines, List.sum_append, meant,
    List.sum_singleton]
  omega

/-- Files whose names are plain and rules that report in one line leave no way for a line feed. -/
theorem lineFaithful_of_scan {surroundings : Surroundings} {settings : Settings}
    {result : ScanResult} (scanned : (Run.scan surroundings settings).2 = .ok result)
    (named : ∀ item ∈ surroundings.tree.entries, ∀ name ∈ item.1, 10 ∉ name.bytes)
    (told : ∀ spec ∈ settings.rules, '\n' ∉ spec.report.toList) : LineFaithful result := by
  refine (lineFaithful_iff result).mpr fun violation member => ?_
  obtain ⟨spec, origin⟩ := Run.exists_origin scanned violation member
  obtain ⟨place, names, bytes, _, real, shown⟩ := origin.file
  refine ⟨?_, ?_⟩
  · rw [shown, String.toList_ofList]
    intro feed
    obtain slash | ⟨name, below, inside⟩ := FileTree.mem_of_mem_namesText names '\n' feed
    · cases slash
    · have given : place ++ names ≠ [] := by simp [real.below]
      have stands := (surroundings.tree.stands_eq_some_iff _ _ given).mp real.stands
      exact named _ stands name (List.mem_append_right place below)
        (Text.mem_of_mem_lossy_ascii 10 '\n' rfl (by decide) name.bytes inside)
  · rw [origin.told]
    exact told spec (List.mem_of_getElem? origin.named)

/-- The report has a line for each violation and one more, and besides a line for each line feed in
a path or a message. So its lines are the ones that are meant just where there is no such line feed,
as after a scan of files with plain names for rules that report in one line. -/
theorem human_lines (result : ScanResult) :
    (Text.pieces '\n' (human false result).toList).length =
        result.violations.length + 2 + (result.violations.map feeds).sum ∧
      (LineFaithful result ↔ ∀ violation ∈ result.violations,
        '\n' ∉ violation.path.toList ∧ '\n' ∉ violation.message.toList) ∧
      ∀ surroundings settings, (Run.scan surroundings settings).2 = .ok result →
        (∀ item ∈ surroundings.tree.entries, ∀ name ∈ item.1, 10 ∉ name.bytes) →
          (∀ spec ∈ settings.rules, '\n' ∉ spec.report.toList) → LineFaithful result := by
  refine ⟨length_pieces_human result, lineFaithful_iff result, ?_⟩
  intro surroundings settings scanned
  exact lineFaithful_of_scan scanned

def letterA : FileName := ⟨Text.raw "a", by decide +kernel⟩

def oneFile : FileTree where
  entries := [([letterA], .file "x".toUTF8)]
  distinct := by simp
  closed := by simp [directoriesOf]

theorem findIn_x {message : Option String} {rule : Rule}
    (compiled : Rule.compile ⟨"x", message, []⟩ = .ok rule) : rule.findIn #['x'] = [⟨0, 1⟩] := by
  have parts := Rule.parts_of_compile compiled
  have strict : rule.allow = [] := List.forall₂_nil_left_iff.mp parts.2
  have meaning : Regex.Expr.ofPattern "x" = .ok (.ofChar 'x') := rfl
  rw [Regex.expr_of_compile _ _ parts.1] at meaning
  have expr := Except.ok.inj meaning
  have matched : rule.pattern.expr.Matches #['x'] 0 1 := by
    rw [expr]
    exact .set _ 0 'x' rfl (by decide)
  exact Rule.findIn_of_char compiled strict (by rw [expr]; rfl) matched

def lookForX (message : String) : Settings :=
  ⟨[Path.slash], none, .human, [], [], false, none, [⟨"x", message, []⟩]⟩

theorem exists_violation_of_oneFile (message : String) :
    ∃ result, (Run.scan (Run.atRoot oneFile) (lookForX message)).2 = .ok result ∧
      ∃ violation ∈ result.violations, violation.message = message := by
  have passes : Passes Regex.compile ["x"] := List.forall_mem_singleton.mpr ⟨_, rfl⟩
  obtain ⟨rule, made⟩ := (Rule.compiles_iff ⟨"x", message, []⟩).mpr passes
  have compiled : RuleSet.compile [⟨"x", message, []⟩] = .ok ⟨[rule]⟩ :=
    (bind_eq_ok_iff ..).mpr ⟨[rule], (mapM_eq_ok_iff ..).mpr (.cons made .nil), rfl⟩
  have opened := oneFile.resolve_slash []
  have scanned := (Run.scan_of_inputs (Run.atRoot oneFile) (lookForX message) .empty _ rfl
    compiled).trans (Scan.scan_of_directory opened (Scan.Workers.ready_none _))
  have reads : oneFile.read [] (Text.raw "/a") = .ok "x".toUTF8 :=
    (oneFile.read_eq_ok_iff [] _ _).mpr ⟨_, oneFile.resolve_join opened letterA _
      (.file [] letterA _ rfl) (by decide +kernel)⟩
  have listed : ⟨Text.raw "/a", "a"⟩ ∈ Scan.candidates oneFile [] [Path.slash] .empty false := by
    apply (Scan.mem_candidates_iff .empty false opened _).mpr
    exact ⟨[letterA], [letterA], "x".toUTF8, .file _ _ _ _ _ _ ⟨_, opened⟩ (.file _ rfl),
      by decide +kernel, PathFilter.isIncluded_empty _⟩
  have line : (Text.lines (Text.dropMark "x".toList))[0]? = some ['x'] := by decide
  have hit : (⟨0, 1⟩ : Regex.Stretch) ∈ rule.findIn ['x'].toArray :=
    List.mem_of_mem_head? (congrArg List.head? (findIn_x made))
  have found : Scan.report "a" 0 ['x'] 0 rule ⟨0, 1⟩ ∈ Scan.textViolations "a" ⟨[rule]⟩ "x" :=
    (Scan.mem_textViolations_iff "a" _ "x" _).mpr
      ⟨0, ['x'], line, 0, rule, rfl, _, hit, rfl⟩
  have member := (Scan.mem_merged_violations_iff ..).mpr
    ⟨_, listed, (Scan.mem_outcome_violations_iff oneFile [] ⟨[rule]⟩ _ _).mpr ⟨"x", reads, found⟩⟩
  exact ⟨_, scanned, _, member, Rule.message_of_compile made⟩

/-- The message of a rule can make a line of its own. -/
theorem message_splits_line :
    ∃ settings result,
      Settings.resolve oneFile [] [Path.slash]
          { root := "/", rules := ["x=one\ntwo"], defaultExcludes := false } = .ok settings ∧
        (Run.scan (Run.atRoot oneFile) settings).2 = .ok result ∧ ¬ LineFaithful result := by
  have rules : Settings.rulesOf
      { root := "/", rules := ["x=one\ntwo"], defaultExcludes := false } {} =
        .ok [⟨"x", "one\ntwo", []⟩] := rfl
  have bare : ∀ name ∈ [Config.firstName, Config.secondName, Config.thirdName],
      oneFile.stands? [name] = none := by
    simp only [List.forall_mem_cons, List.not_mem_nil, false_imp_iff, implies_true, and_true]
    exact ⟨rfl, rfl, rfl⟩
  have none := Config.find?_eq_none_of_bare
    (oneFile.endsAt_of_resolve (oneFile.resolve_slash [])) bare
  have resolved := Settings.resolve_arguments oneFile ["x=one\ntwo"] false _ none rules
    (List.cons_ne_nil _ _)
  obtain ⟨result, scanned, violation, member, told⟩ := exists_violation_of_oneFile "one\ntwo"
  refine ⟨_, result, resolved, scanned, ?_⟩
  rw [lineFaithful_iff]
  intro plain
  have feedless := (plain violation member).2
  rw [told] at feedless
  exact feedless (by decide)

end Report

end PatternLint
