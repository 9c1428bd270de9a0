import PatternLint.Proofs.Report.Lines
import PatternLint.Proofs.Text.Run

/-!
The report for readers on a terminal. A terminal takes the report apart into characters and switches
of attributes. With colours the same characters are shown as without; only what tells the place of a
violation is bold, and the summary, which is green or red besides.
-/

namespace PatternLint

namespace Report

inductive Sign where
  | shown (char : Char)
  | switch (code : List Char)
deriving DecidableEq

def Sign.char? : Sign → Option Char
  | shown char => some char
  | switch _ => none

/-- The code of the switch that a text begins with, and what follows it. A code has at least one
digit. -/
def readSwitch? : List Char → Option (List Char × List Char)
  | '\x1b' :: '[' :: rest =>
    match rest.takeWhile Char.isDigit, rest.dropWhile Char.isDigit with
    | digit :: digits, 'm' :: after => some (digit :: digits, after)
    | _, _ => none
  | _ => none

theorem readSwitch?_length_lt (text code after : List Char)
    (reads : readSwitch? text = some (code, after)) : after.length < text.length := by
  unfold readSwitch? at reads
  split at reads
  · rename_i rest
    split at reads
    · rename_i digits left
      have shorter :=
        (List.dropWhile_sublist Char.isDigit : (rest.dropWhile _).Sublist rest).length_le
      cases reads
      simp only [left, List.length_cons] at shorter ⊢
      omega
    · cases reads
  · cases reads

/-- A text as a terminal takes it: from the left, whole switches first. -/
def signs : List Char → List Sign
  | [] => []
  | char :: rest =>
    match _read : readSwitch? (char :: rest) with
    | some (code, after) => .switch code :: signs after
    | none => .shown char :: signs rest
  termination_by text => text.length
  decreasing_by
    · exact readSwitch?_length_lt _ _ _ _read
    · exact Nat.lt_succ_self _

def withoutSwitches (text : List Char) : List Char := (signs text).filterMap Sign.char?

def isForeground : List Char → Bool
  | ['3', _] => true
  | _ => false

abbrev Codes := List (List Char)

/-- What is on after a switch. Nought ends all attributes. -/
def switched (on : Codes) : List Char → Codes
  | ['0'] => []
  | ['3', '9'] => on.filter fun code => !isForeground code
  | code => code :: on

abbrev Cell := Char × Codes

def attributed (on : Codes) : List Sign → List Cell
  | [] => []
  | .shown char :: rest => (char, on) :: attributed on rest
  | .switch code :: rest => attributed (switched on code) rest

def shown (text : String) : List Sign := text.toList.map .shown

def cells (text : String) (on : Codes) : List Cell := text.toList.map (·, on)

theorem map_fst_cells (text : String) (on : Codes) :
    (cells text on).map Prod.fst = text.toList := by
  have first : Prod.fst ∘ (fun char : Char => (char, on)) = id := rfl
  rw [cells, List.map_map, first, List.map_id]

theorem map_fst_attributed (on : Codes) (list : List Sign) :
    (attributed on list).map Prod.fst = list.filterMap Sign.char? := by
  induction list generalizing on with
  | nil => rfl
  | cons sign rest ih =>
    cases sign with
    | shown char => exact congrArg (char :: ·) (ih on)
    | switch code => exact ih (switched on code)

theorem attributed_shown (on : Codes) (text : String) (rest : List Sign) :
    attributed on (shown text ++ rest) = cells text on ++ attributed on rest := by
  rw [shown, cells]
  induction text.toList with
  | nil => rfl
  | cons char text ih => exact congrArg ((char, on) :: ·) ih

theorem signs_cons (char : Char) (rest : List Char) (other : char ≠ '\x1b') :
    signs (char :: rest) = .shown char :: signs rest := by
  have unread : readSwitch? (char :: rest) = none := by
    unfold readSwitch?
    split
    · rename_i begins
      exact absurd (List.cons.inj begins).1 other
    · rfl
  rw [signs]
  split
  · rename_i reads
    rw [unread] at reads
    cases reads
  · rfl

theorem signs_append (text : String) (rest : List Char) (free : '\x1b' ∉ text.toList) :
    signs (text.toList ++ rest) = shown text ++ signs rest := by
  rw [shown]
  generalize text.toList = chars at free ⊢
  induction chars with
  | nil => rfl
  | cons char others ih =>
    rw [List.mem_cons, not_or] at free
    rw [List.cons_append, signs_cons char _ (Ne.symm free.1), ih free.2]
    rfl

theorem signs_switch (code : String) (rest : List Char) (given : code.toList ≠ [])
    (digits : code.toList.all Char.isDigit = true) :
    signs ((switch code).toList ++ rest) = .switch code.toList :: signs rest := by
  have text : (switch code).toList ++ rest = '\x1b' :: '[' :: (code.toList ++ 'm' :: rest) := by
    simp [switch]
  have stop : ∀ char ∈ ('m' :: rest).head?, char.isDigit = false := by
    rintro char ⟨⟩
    rfl
  have inside := List.all_eq_true.mp digits
  have taken := Text.takeWhile_run Char.isDigit code.toList ('m' :: rest) inside stop
  have left := Text.dropWhile_run Char.isDigit code.toList ('m' :: rest) inside stop
  have reads : readSwitch? ('\x1b' :: '[' :: (code.toList ++ 'm' :: rest)) =
      some (code.toList, rest) := by
    obtain ⟨digit, more, same⟩ := List.exists_cons_of_ne_nil given
    rw [readSwitch?, taken, left, same]
    rfl
  rw [text, signs]
  split
  · rename_i found
    rw [reads] at found
    cases found
    rfl
  · rename_i unread
    rw [reads] at unread
    cases unread

structure NoEscape (violation : Violation) : Prop where
  path : '\x1b' ∉ violation.path.toList
  message : '\x1b' ∉ violation.message.toList

theorem NoEscape.location {violation : Violation} (plain : NoEscape violation) :
    '\x1b' ∉ (location violation).toList := by
  have counted := Text.notMem_toString '\x1b' (by decide)
  exact Text.notMem_append (Text.notMem_append (Text.notMem_append (Text.notMem_append plain.path
    (by decide)) (counted _)) (by decide)) (counted _)

def told (violation : Violation) : String := ": " ++ violation.message ++ "\n"

theorem NoEscape.told {violation : Violation} (plain : NoEscape violation) :
    '\x1b' ∉ (told violation).toList :=
  Text.notMem_append (Text.notMem_append (by decide) plain.message) (by decide)

/-- The line of a violation: its place is bold, and nothing behind it. -/
def lineSigns (violation : Violation) : List Sign :=
  .switch ['1'] :: shown (location violation) ++ .switch ['0'] :: shown (told violation)

def verdict (result : ScanResult) : Colour := if result.violations = [] then .green else .red

def summarySigns (result : ScanResult) : List Sign :=
  .switch ['1'] :: .switch (verdict result).code.toList :: shown (summary result) ++
    [.switch ['3', '9'], .switch ['0'], .shown '\n']

theorem signs_violationLine (violation : Violation) (rest : List Char)
    (plain : NoEscape violation) :
    signs ((violationLine true violation).toList ++ rest) = lineSigns violation ++ signs rest := by
  have parts : (violationLine true violation).toList ++ rest =
      (switch "1").toList ++ ((location violation).toList ++ ((switch "0").toList ++
        ((told violation).toList ++ rest))) := by
    simp [violationLine, bold, told]
  rw [parts, signs_switch "1" _ (by decide) (by decide), signs_append _ _ plain.location,
    signs_switch "0" _ (by decide) (by decide), signs_append _ _ plain.told, lineSigns]
  simp

theorem signs_summaryLine (result : ScanResult) :
    signs (summaryLine true result).toList = summarySigns result := by
  have colour : (if result.isClean then Colour.green else Colour.red) = verdict result := by
    simp [verdict, ScanResult.isClean]
  have parts : (summaryLine true result).toList =
      (switch "1").toList ++ ((switch (verdict result).code).toList ++ ((summary result).toList ++
        ((switch "39").toList ++ ((switch "0").toList ++ ['\n'])))) := by
    simp [summaryLine, bold, coloured, colour]
  have code : (verdict result).code.toList ≠ [] ∧
      (verdict result).code.toList.all Char.isDigit = true := by
    cases verdict result <;> decide
  have plain := notMem_summary '\x1b' (by decide) (by decide) result
  have feed : signs ['\n'] = [.shown '\n'] := by
    rw [signs_cons _ _ (by decide), signs]
  rw [parts, signs_switch "1" _ (by decide) (by decide), signs_switch _ _ code.1 code.2,
    signs_append _ _ plain, signs_switch "39" _ (by decide) (by decide),
    signs_switch "0" _ (by decide) (by decide), feed]
  rfl

theorem signs_lines (violations : List Violation) (rest : List Char)
    (plain : ∀ violation ∈ violations, NoEscape violation) :
    signs (violations.flatMap (fun violation => (violationLine true violation).toList) ++ rest) =
      violations.flatMap lineSigns ++ signs rest := by
  induction violations with
  | nil => rfl
  | cons violation others ih =>
    obtain ⟨first, later⟩ := List.forall_mem_cons.mp plain
    rw [List.flatMap_cons, List.flatMap_cons, List.append_assoc, List.append_assoc,
      signs_violationLine violation _ first, ih later]

theorem signs_human (result : ScanResult)
    (plain : ∀ violation ∈ result.violations, NoEscape violation) :
    signs (human true result).toList =
      result.violations.flatMap lineSigns ++ summarySigns result := by
  rw [human, String.toList_append, String.toList_join, List.flatMap_map,
    signs_lines result.violations _ plain, signs_summaryLine]

def lineCells (violation : Violation) : List Cell :=
  cells (location violation) [['1']] ++ cells (told violation) []

def summaryCells (result : ScanResult) : List Cell :=
  cells (summary result) [(verdict result).code.toList, ['1']] ++ [('\n', [])]

theorem attributed_lineSigns (violation : Violation) (rest : List Sign) :
    attributed [] (lineSigns violation ++ rest) = lineCells violation ++ attributed [] rest := by
  rw [lineSigns, List.append_assoc, List.cons_append, attributed, attributed_shown,
    List.cons_append, attributed, attributed_shown, lineCells, List.append_assoc]
  rfl

theorem attributed_lines (violations : List Violation) (rest : List Sign) :
    attributed [] (violations.flatMap lineSigns ++ rest) =
      violations.flatMap lineCells ++ attributed [] rest := by
  induction violations with
  | nil => rfl
  | cons violation others ih =>
    rw [List.flatMap_cons, List.flatMap_cons, List.append_assoc, List.append_assoc,
      attributed_lineSigns, ih]

theorem attributed_summarySigns (result : ScanResult) :
    attributed [] (summarySigns result) = summaryCells result := by
  rw [summarySigns, List.cons_append, attributed, List.cons_append, attributed, attributed_shown,
    summaryCells]
  cases verdict result <;> rfl

theorem map_fst_lineCells (violation : Violation) :
    (lineCells violation).map Prod.fst = (violationLine false violation).toList := by
  rw [lineCells, List.map_append, map_fst_cells, map_fst_cells]
  simp [violationLine, told]

theorem map_fst_summaryCells (result : ScanResult) :
    (summaryCells result).map Prod.fst = (summaryLine false result).toList := by
  rw [summaryCells, List.map_append, map_fst_cells]
  simp [summaryLine]

theorem codes_cells {text : String} {on : Codes} {cell : Cell} (member : cell ∈ cells text on) :
    cell.2 = on := by
  obtain ⟨char, _, rfl⟩ := List.mem_map.mp member
  rfl

theorem codes_lineCells {violation : Violation} {cell : Cell}
    (member : cell ∈ lineCells violation) :
    cell.2 ⊆ [['1']] := by
  rcases List.mem_append.mp member with place | message
  · rw [codes_cells place]
    exact List.Subset.refl _
  · rw [codes_cells message]
    exact List.nil_subset _

theorem code_injective {colour other : Colour}
    (same : colour.code.toList = other.code.toList) : colour = other := by
  revert same
  cases colour <;> cases other <;> decide

theorem seen_iff (result : ScanResult) (colour : Colour) :
    (∃ cell ∈ result.violations.flatMap lineCells ++ summaryCells result,
        colour.code.toList ∈ cell.2) ↔ verdict result = colour := by
  have uncoloured : colour.code.toList ∉ [['1']] := by
    cases colour <;> decide
  constructor
  · rintro ⟨cell, member, seen⟩
    rcases List.mem_append.mp member with line | last
    · obtain ⟨violation, _, inside⟩ := List.mem_flatMap.mp line
      exact absurd (codes_lineCells inside seen) uncoloured
    · rcases List.mem_append.mp last with text | feed
      · rw [codes_cells text] at seen
        rcases List.mem_cons.mp seen with same | bold
        · exact (code_injective same).symm
        · exact absurd bold uncoloured
      · cases List.mem_singleton.mp feed
        cases seen
  · rintro rfl
    have label : '-' ∈ "-- Summary -- violations=".toList := by decide
    have begins : '-' ∈ (summary result).toList := by
      delta summary
      simp only [String.toList_append, List.append_assoc]
      exact List.mem_append_left _ label
    have cell : ('-', [(verdict result).code.toList, ['1']]) ∈ summaryCells result :=
      List.mem_append_left _ (List.mem_map.mpr ⟨'-', begins, rfl⟩)
    exact ⟨_, List.mem_append_right _ cell, List.mem_cons_self⟩

theorem verdict_eq_green_iff (result : ScanResult) :
    verdict result = .green ↔ result.violations = [] := by
  unfold verdict
  split <;> simp_all

theorem verdict_eq_red_iff (result : ScanResult) :
    verdict result = .red ↔ result.violations ≠ [] := by
  unfold verdict
  split <;> simp_all

/-- The report for readers on a terminal: what is shown is the report without colours, and each
switch stands right where the part that it belongs to begins or ends. -/
structure OnlyColours (result : ScanResult) : Prop where
  content : withoutSwitches (human true result).toList = (human false result).toList
  placed : signs (human true result).toList =
    result.violations.flatMap lineSigns ++ summarySigns result
  attributes : attributed [] (signs (human true result).toList) =
    result.violations.flatMap lineCells ++ summaryCells result
  green : (∃ cell ∈ attributed [] (signs (human true result).toList),
    Colour.green.code.toList ∈ cell.2) ↔ result.violations = []
  red : (∃ cell ∈ attributed [] (signs (human true result).toList),
    Colour.red.code.toList ∈ cell.2) ↔ result.violations ≠ []

/-- Colours change nothing but the look of places and of the summary, as long as no escape character
comes in with a path or a message. -/
theorem colours_keep_content (result : ScanResult)
    (plain : ∀ violation ∈ result.violations, NoEscape violation) :
    OnlyColours result := by
  have placed := signs_human result plain
  have attributes : attributed [] (signs (human true result).toList) =
      result.violations.flatMap lineCells ++ summaryCells result := by
    rw [placed, attributed_lines, attributed_summarySigns]
  refine ⟨?_, placed, attributes, ?_, ?_⟩
  · calc
      withoutSwitches (human true result).toList
      _ = (attributed [] (signs (human true result).toList)).map Prod.fst :=
        (map_fst_attributed [] _).symm
      _ = (result.violations.flatMap lineCells ++ summaryCells result).map Prod.fst := by
        rw [attributes]
      _ = (human false result).toList := by
        simp only [human, String.toList_append, String.toList_join, List.flatMap_map,
          List.map_append, List.map_flatMap, map_fst_lineCells, map_fst_summaryCells]
  · rw [attributes, seen_iff, verdict_eq_green_iff]
  · rw [attributes, seen_iff, verdict_eq_red_iff]

/-- Two violations, with texts that look like switches but for the escape character. -/
def twoFindings : ScanResult where
  violations := [⟨"[1m/a:b", 3, 10, "x", "0m: use\ny", 0⟩, ⟨"c", 1, 1, "z", "", 4⟩]
  files := 12
  skipped := [⟨"d.bin", "not valid UTF-8"⟩]

theorem colours_of_twoFindings :
    (∀ violation ∈ twoFindings.violations, NoEscape violation) ∧ OnlyColours twoFindings := by
  have plain : ∀ violation ∈ twoFindings.violations, NoEscape violation := by
    rintro violation (_ | ⟨_, _ | ⟨_, ⟨⟩⟩⟩)
    · exact ⟨by decide, by decide⟩
    · exact ⟨by decide, by decide⟩
  exact ⟨plain, colours_keep_content twoFindings plain⟩

end Report

end PatternLint
