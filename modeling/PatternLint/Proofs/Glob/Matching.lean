import PatternLint.Glob.Matching

namespace PatternLint.Glob

/-- The tokens can be laid along the text. A `tree` in the middle takes nothing or ends with a
slash; at the end it takes any rest. -/
inductive Accords : List Token → List Char → Prop where
  | nothing : Accords [] []
  | single (token : Token) (char : Char) (tokens : List Token) (text : List Char) :
    token.accepts char = true → Accords tokens text → Accords (token :: tokens) (char :: text)
  | run (taken : List Char) (tokens : List Token) (text : List Char) :
    '/' ∉ taken → Accords tokens text → Accords (.run :: tokens) (taken ++ text)
  | rest (text : List Char) : Accords [.tree] text
  | here (tokens : List Token) (text : List Char) :
    Accords tokens text → Accords (.tree :: tokens) text
  | under (above : List Char) (tokens : List Token) (text : List Char) :
    Accords tokens text → Accords (.tree :: tokens) (above ++ '/' :: text)

/-- One answer for each rest of a text, from the whole text to the empty rest. -/
inductive Answers (holds : List Char → Prop) : List Char → List Bool → Prop where
  | last (answer : Bool) : (answer = true ↔ holds []) → Answers holds [] [answer]
  | next (char : Char) (text : List Char) (answer : Bool) (later : List Bool) :
    (answer = true ↔ holds (char :: text)) → Answers holds text later →
      Answers holds (char :: text) (answer :: later)

namespace Answers

variable {holds others : List Char → Prop} {text : List Char} {answers : List Bool}

theorem head (known : Answers holds text answers) :
    answers.headD false = true ↔ holds text := by
  cases known with
  | last answer here => exact here
  | next char text answer later here _ => exact here

theorem congr (known : Answers holds text answers) (same : ∀ rest, holds rest ↔ others rest) :
    Answers others text answers := by
  induction known with
  | last answer here => exact .last answer (here.trans (same []))
  | next char text answer later here _ ih =>
    exact .next char text answer later (here.trans (same (char :: text))) ih

theorem nowhere_but_end (text : List Char) :
    Answers (fun rest => rest = []) text (text.map (fun _ => false) ++ [true]) := by
  induction text with
  | nil => exact .last true (by simp)
  | cons char text ih => exact .next char text false _ (by simp) ih

theorem everywhere (text : List Char) :
    Answers (fun _ => True) text (text.map (fun _ => true) ++ [true]) := by
  induction text with
  | nil => exact .last true (by simp)
  | cons char text ih => exact .next char text true _ (by simp) ih

theorem singleRow (token : Token) (known : Answers holds text answers) :
    Answers
      (fun rest => ∃ char later, rest = char :: later ∧ token.accepts char = true ∧ holds later)
      text (token.singleRow text answers) := by
  induction known with
  | last answer here => exact .last false (by simp)
  | next char text answer later here known ih =>
    refine .next char text _ _ ?_ ih
    rw [Bool.and_eq_true, List.tail_cons, known.head]
    constructor
    · intro both
      exact ⟨char, text, rfl, both⟩
    · rintro ⟨first, after, parts, both⟩
      cases parts
      exact both

theorem runRow (known : Answers holds text answers) :
    Answers (fun rest => ∃ taken later, rest = taken ++ later ∧ '/' ∉ taken ∧ holds later)
      text (Token.runRow text answers) := by
  induction known with
  | last answer here =>
    refine .last _ ?_
    rw [List.headD_cons, here]
    constructor
    · intro holds
      exact ⟨[], [], rfl, List.not_mem_nil, holds⟩
    · rintro ⟨taken, later, parts, _, holds⟩
      have empty := List.append_eq_nil_iff.mp parts.symm
      exact empty.2 ▸ holds
  | next char text answer later here known ih =>
    refine .next char text _ _ ?_ ih
    rw [List.headD_cons, List.tail_cons, Bool.or_eq_true, Bool.and_eq_true, here, ih.head]
    constructor
    · rintro (holds | ⟨other, taken, after, parts, bare, holds⟩)
      · exact ⟨[], char :: text, rfl, List.not_mem_nil, holds⟩
      · refine ⟨char :: taken, after, by rw [parts]; rfl, ?_, holds⟩
        have plain : char ≠ '/' := by simpa using other
        simp [bare, plain.symm]
    · rintro ⟨taken, after, parts, bare, holds⟩
      cases taken with
      | nil =>
        left
        rw [parts]
        exact holds
      | cons first taken =>
        obtain ⟨rfl, rfl⟩ := List.cons.inj parts
        rw [List.mem_cons, not_or] at bare
        exact Or.inr ⟨by simpa using Ne.symm bare.1, taken, after, rfl, bare.2, holds⟩

theorem slashRow (known : Answers holds text answers) :
    Answers (fun rest => ∃ above later, rest = above ++ '/' :: later ∧ holds later)
      text (Token.slashRow text answers) := by
  induction known with
  | last answer here => exact .last false (by simp)
  | next char text answer later here known ih =>
    refine .next char text _ _ ?_ ih
    rw [Bool.or_eq_true, Bool.and_eq_true, List.tail_cons, known.head, ih.head, beq_iff_eq]
    constructor
    · rintro (⟨slash, holds⟩ | ⟨above, after, parts, holds⟩)
      · exact ⟨[], text, by rw [slash]; rfl, holds⟩
      · exact ⟨char :: above, after, by rw [parts]; rfl, holds⟩
    · rintro ⟨above, after, parts, holds⟩
      cases above with
      | nil =>
        obtain ⟨slash, rfl⟩ := List.cons.inj parts
        exact Or.inl ⟨slash, holds⟩
      | cons first above =>
        obtain ⟨_, rfl⟩ := List.cons.inj parts
        exact Or.inr ⟨above, after, rfl, holds⟩

theorem zipWith_or {more : List Bool} (known : Answers holds text answers)
    (also : Answers others text more) :
    Answers (fun rest => holds rest ∨ others rest) text (List.zipWith or answers more) := by
  induction known generalizing more with
  | last answer here =>
    cases also with
    | last second there => exact .last _ (by rw [Bool.or_eq_true, here, there])
  | next char text answer later here _ ih =>
    cases also with
    | next _ _ second behind there also =>
      exact .next char text _ _ (by rw [Bool.or_eq_true, here, there]) (ih also)

theorem treeRow (known : Answers holds text answers) :
    Answers (fun rest => holds rest ∨ ∃ above later, rest = above ++ '/' :: later ∧ holds later)
      text (Token.treeRow text answers) :=
  known.zipWith_or known.slashRow

end Answers

theorem accords_nil_iff (text : List Char) : Accords [] text ↔ text = [] := by
  constructor
  · intro accords
    cases accords
    rfl
  · rintro rfl
    exact .nothing

theorem accords_run_iff (tokens : List Token) (text : List Char) :
    Accords (.run :: tokens) text ↔
      ∃ taken later, text = taken ++ later ∧ '/' ∉ taken ∧ Accords tokens later := by
  constructor
  · intro accords
    cases accords with
    | single _ char _ later accepts _ => cases accepts
    | run taken _ later bare accords => exact ⟨taken, later, rfl, bare, accords⟩
  · rintro ⟨taken, later, rfl, bare, accords⟩
    exact .run taken tokens later bare accords

theorem accords_tree_iff (tokens : List Token) (text : List Char) (more : tokens ≠ []) :
    Accords (.tree :: tokens) text ↔
      Accords tokens text ∨ ∃ above later, text = above ++ '/' :: later ∧ Accords tokens later := by
  constructor
  · intro accords
    cases accords with
    | single _ char _ later accepts _ => cases accepts
    | rest => exact absurd rfl more
    | here _ _ accords => exact .inl accords
    | under above _ later accords => exact .inr ⟨above, later, rfl, accords⟩
  · rintro (accords | ⟨above, later, rfl, accords⟩)
    · exact .here tokens text accords
    · exact .under above tokens later accords

theorem accords_single_iff (token : Token) (tokens : List Token) (text : List Char)
    (noRun : token ≠ .run) (noTree : token ≠ .tree) :
    Accords (token :: tokens) text ↔
      ∃ char later, text = char :: later ∧ token.accepts char = true ∧ Accords tokens later := by
  constructor
  · intro accords
    cases accords with
    | single _ char _ later accepts accords => exact ⟨char, later, rfl, accepts, accords⟩
    | run => exact absurd rfl noRun
    | rest => exact absurd rfl noTree
    | here => exact absurd rfl noTree
    | under => exact absurd rfl noTree
  · rintro ⟨char, later, rfl, accepts, accords⟩
    exact .single token char tokens later accepts accords

theorem accords_append_iff (first second : List Token) (text : List Char) (plain : .tree ∉ first) :
    Accords (first ++ second) text ↔
      ∃ left right, text = left ++ right ∧ Accords first left ∧ Accords second right := by
  induction first generalizing text with
  | nil =>
    constructor
    · intro accords
      exact ⟨[], text, rfl, .nothing, accords⟩
    · rintro ⟨left, right, rfl, empty, accords⟩
      obtain rfl := (accords_nil_iff left).mp empty
      exact accords
  | cons token first ih =>
    rw [List.mem_cons, not_or] at plain
    obtain ⟨noTree, others⟩ := plain
    by_cases noRun : token = .run
    · subst noRun
      simp only [List.cons_append, accords_run_iff, ih _ others]
      constructor
      · rintro ⟨taken, _, rfl, bare, left, right, rfl, one, two⟩
        exact ⟨taken ++ left, right, by simp, ⟨taken, left, rfl, bare, one⟩, two⟩
      · rintro ⟨_, right, rfl, ⟨taken, left, rfl, bare, one⟩, two⟩
        exact ⟨taken, left ++ right, by simp, bare, left, right, rfl, one, two⟩
    · simp only [List.cons_append, accords_single_iff token _ _ noRun (Ne.symm noTree), ih _ others]
      constructor
      · rintro ⟨char, _, rfl, accepts, left, right, rfl, one, two⟩
        exact ⟨char :: left, right, rfl, ⟨char, left, rfl, accepts, one⟩, two⟩
      · rintro ⟨_, right, rfl, ⟨char, left, rfl, accepts, one⟩, two⟩
        exact ⟨char, left ++ right, rfl, accepts, left, right, rfl, one, two⟩

theorem row_answers (tokens : List Token) (text : List Char) :
    Answers (Accords tokens) text (row tokens text) := by
  fun_induction row tokens text with
  | case1 text => exact (Answers.nowhere_but_end text).congr fun rest => (accords_nil_iff rest).symm
  | case2 text => exact (Answers.everywhere text).congr fun rest => iff_of_true trivial (.rest rest)
  | case3 tokens text after _ ih =>
    exact ih.runRow.congr fun rest => (accords_run_iff tokens rest).symm
  | case4 tokens text after more ih =>
    exact ih.treeRow.congr fun rest => (accords_tree_iff tokens rest (more rfl)).symm
  | case5 token tokens text _ after noRun noTree ih =>
    exact (ih.singleRow token).congr fun rest =>
      (accords_single_iff token tokens rest noRun noTree).symm

theorem matchesChars_iff (glob : Glob) (text : List Char) :
    glob.matchesChars text = true ↔ Accords glob.tokens text :=
  (row_answers glob.tokens text).head

theorem accords_append_of_tree (tokens : List Token) (text more : List Char)
    (accords : Accords tokens text) (last : tokens.getLast? = some .tree) :
    Accords tokens (text ++ more) := by
  induction accords with
  | nothing => cases last
  | single token char tokens text accepts _ ih =>
    cases tokens with
    | nil =>
      obtain rfl : token = .tree := by simpa using last
      cases accepts
    | cons next tokens => exact .single token char _ _ accepts (ih (by simpa using last))
  | run taken tokens text bare _ ih =>
    cases tokens with
    | nil => simp at last
    | cons next tokens =>
      rw [List.append_assoc]
      exact .run taken _ _ bare (ih (by simpa using last))
  | rest text => exact .rest _
  | here tokens text _ ih =>
    cases tokens with
    | nil => exact .rest _
    | cons next tokens => exact .here _ _ (ih (by simpa using last))
  | under above tokens text _ ih =>
    cases tokens with
    | nil => exact .rest _
    | cons next tokens =>
      rw [List.append_assoc, List.cons_append]
      exact .under above _ _ (ih (by simpa using last))

@[simp]
theorem accepts_literal (own char : Char) : (Token.literal own).accepts char = (own == char) := rfl

@[simp]
theorem accepts_one (char : Char) : Token.one.accepts char = (char != '/') := rfl

@[simp]
theorem accepts_bracket (negated : Bool) (ranges : List CharRange) (char : Char) :
    (Token.bracket negated ranges).accepts char =
      (char != '/' && (Token.inRanges ranges char != negated)) := rfl

theorem accepts_slash_iff (token : Token) : token.accepts '/' = true ↔ token = .literal '/' := by
  cases token with
  | literal char =>
    rw [Token.literal.injEq]
    exact beq_iff_eq
  | one | run | bracket | tree => exact ⟨nofun, nofun⟩

/-- Tokens that take nothing are runs and trees, and the last of them can take a name as well. -/
theorem accords_name_of_accords_nil (tokens : List Token) (name : List Char) (bare : '/' ∉ name)
    (accords : Accords tokens []) (more : tokens ≠ []) : Accords tokens name := by
  induction tokens with
  | nil => exact absurd rfl more
  | cons token tokens ih =>
    by_cases last : tokens = []
    · subst last
      cases token with
      | run => simpa using Accords.run name [] [] bare .nothing
      | tree => exact .rest name
      | _ => cases accords
    · cases token with
      | run =>
        obtain ⟨taken, later, parts, _, accords⟩ := (accords_run_iff tokens []).mp accords
        obtain ⟨_, rfl⟩ := List.append_eq_nil_iff.mp parts.symm
        exact .run [] tokens name List.not_mem_nil (ih accords last)
      | tree =>
        rcases (accords_tree_iff tokens [] last).mp accords with accords | ⟨above, _, parts, _⟩
        · exact .here tokens name (ih accords last)
        · simp at parts
      | _ => cases accords

/-- Where a text that ends in a slash is matched, but not by a slash at the end of the glob, the
text with one more name is matched as well. -/
theorem accords_append_name (tokens : List Token) (text name : List Char) (bare : '/' ∉ name)
    (accords : Accords tokens text) (slash : text.getLast? = some '/')
    (last : tokens.getLast? ≠ some (.literal '/')) : Accords tokens (text ++ name) := by
  induction accords with
  | nothing => cases slash
  | single token char tokens text accepts accords ih =>
    cases text with
    | nil =>
      obtain rfl : char = '/' := by simpa using slash
      obtain rfl := (accepts_slash_iff token).mp accepts
      have more : tokens ≠ [] := by
        rintro rfl
        simp at last
      have later := accords_name_of_accords_nil tokens name bare accords more
      exact .single _ '/' tokens name accepts later
    | cons next text =>
      cases tokens with
      | nil => cases accords
      | cons after tokens =>
        exact .single token char _ _ accepts (ih (by simpa using slash) (by simpa using last))
  | run taken tokens text free accords ih =>
    cases text with
    | nil =>
      have inside := List.mem_of_getLast? (by simpa using slash)
      exact absurd inside free
    | cons next text =>
      cases tokens with
      | nil => cases accords
      | cons after tokens =>
        rw [List.append_assoc]
        refine .run taken _ _ free (ih ?_ (by simpa using last))
        simpa [List.getLast?_append] using slash
  | rest text => exact .rest _
  | here tokens text accords ih =>
    cases tokens with
    | nil => exact .rest _
    | cons after tokens => exact .here _ _ (ih slash (by simpa using last))
  | under above tokens text accords ih =>
    cases tokens with
    | nil => exact .rest _
    | cons after tokens =>
      rw [List.append_assoc, List.cons_append]
      cases text with
      | nil => exact .under above _ _ (accords_name_of_accords_nil _ name bare accords (by simp))
      | cons next text =>
        refine .under above _ _ (ih ?_ (by simpa using last))
        simpa [List.getLast?_append] using slash

end PatternLint.Glob
