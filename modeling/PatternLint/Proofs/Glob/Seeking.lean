import PatternLint.Proofs.Glob.Matching
import PatternLint.Proofs.Glob.Reading

/-!
The same matches by trying: a token that may take more or less is tried with the least first, and
the whole search is given up where the text ends before the tokens do. Giving up loses no match,
since from there on the text only gets shorter. Nor does it matter that a tree is tried behind
slashes alone, for it stands at the beginning of a component.
-/

namespace PatternLint.Glob

/-- What an attempt comes to; a hopeless one ends the attempts it is part of. -/
inductive Outcome where
  | found
  | missed
  | hopeless
deriving DecidableEq

def seekRun (attempt : List Char → Outcome) : List Char → Outcome
  | [] => attempt []
  | char :: text =>
    match attempt (char :: text) with
    | .missed => if char = '/' then .missed else seekRun attempt text
    | outcome => outcome

def seekUnder (attempt : List Char → Outcome) : List Char → Outcome
  | [] => attempt []
  | char :: text =>
    if char = '/' then
      match attempt text with
      | .missed => seekUnder attempt text
      | outcome => outcome
    else seekUnder attempt text

def seekTree (attempt : List Char → Outcome) (text : List Char) : Outcome :=
  match attempt text with
  | .missed => seekUnder attempt text
  | outcome => outcome

def seek : List Token → List Char → Outcome
  | [], text => if text.isEmpty then .found else .missed
  | .run :: tokens, text => seekRun (seek tokens) text
  | .tree :: tokens, text => seekTree (seek tokens) text
  | _ :: _, [] => .hopeless
  | token :: tokens, char :: text => if token.accepts char then seek tokens text else .missed

def Under (text later : List Char) : Prop := ∃ above, text = above ++ '/' :: later

theorem Under.suffix {text later : List Char} (under : Under text later) : later <:+ text := by
  obtain ⟨above, rfl⟩ := under
  exact ⟨above ++ ['/'], by simp⟩

theorem under_cons_iff (char : Char) (text later : List Char) :
    Under (char :: text) later ↔ char = '/' ∧ later = text ∨ Under text later := by
  constructor
  · rintro ⟨above, parts⟩
    cases above with
    | nil =>
      obtain ⟨rfl, rfl⟩ := List.cons.inj parts
      exact .inl ⟨rfl, rfl⟩
    | cons first above =>
      obtain ⟨rfl, rfl⟩ := List.cons.inj parts
      exact .inr ⟨above, rfl⟩
  · rintro (⟨rfl, rfl⟩ | ⟨above, rfl⟩)
    · exact ⟨[], rfl⟩
    · exact ⟨char :: above, rfl⟩

theorem Under.trans {text middle later : List Char} (first : Under text middle)
    (second : Under middle later) : Under text later := by
  obtain ⟨above, rfl⟩ := first
  obtain ⟨between, rfl⟩ := second
  exact ⟨above ++ '/' :: between, by simp⟩

def Onward (text later : List Char) : Prop := later = text ∨ Under text later

theorem Onward.suffix {text later : List Char} (onward : Onward text later) : later <:+ text := by
  rcases onward with rfl | under
  · exact List.suffix_refl _
  · exact under.suffix

theorem Onward.trans {text middle later : List Char} (first : Onward text middle)
    (second : Onward middle later) : Onward text later := by
  rcases first with rfl | under
  · exact second
  · rcases second with rfl | further
    · exact .inr under
    · exact .inr (under.trans further)

theorem exists_lastName (text : List Char) : ∃ name, '/' ∉ name ∧ Onward text name := by
  induction text with
  | nil => exact ⟨[], List.not_mem_nil, .inl rfl⟩
  | cons char text ih =>
    obtain ⟨name, bare, rfl | under⟩ := ih
    · by_cases slash : char = '/'
      · exact ⟨name, bare, .inr ((under_cons_iff char name name).mpr (.inl ⟨slash, rfl⟩))⟩
      · exact ⟨char :: name, by simp [bare, Ne.symm slash], .inl rfl⟩
    · exact ⟨name, bare, .inr ((under_cons_iff char text name).mpr (.inr under))⟩

/-- What an attempt tells: whether the tokens accord with the text, and once it is hopeless, that
they accord with nothing that is left of it. If they begin with a tree, only what begins a component
may be left. -/
structure Told (tokens : List Token) (text : List Char) : Prop where
  found_iff : seek tokens text = .found ↔ Accords tokens text
  barred : seek tokens text = .hopeless → ∀ later, Onward text later → ¬ Accords tokens later
  anywhere : tokens.head? ≠ some .tree → seek tokens text = .hopeless →
    ∀ later, later <:+ text → ¬ Accords tokens later

variable {tokens : List Token} {text : List Char}

theorem told_of_suffixes (found : seek tokens text = .found ↔ Accords tokens text)
    (anywhere : seek tokens text = .hopeless → ∀ later, later <:+ text → ¬ Accords tokens later) :
    Told tokens text where
  found_iff := found
  barred hopeless later onward := anywhere hopeless later onward.suffix
  anywhere _ := anywhere

theorem Told.not_accords (told : Told tokens text) (other : seek tokens text ≠ .found) :
    ¬ Accords tokens text := fun accords => other (told.found_iff.mpr accords)

theorem told_nil (text : List Char) : Told [] text := by
  apply told_of_suffixes
  · rw [accords_nil_iff, seek]
    cases text <;> simp
  · intro hopeless
    cases text <;> cases hopeless

theorem told_single (token : Token) (noRun : token ≠ .run) (noTree : token ≠ .tree)
    (known : ∀ text, Told tokens text)
    (placed : tokens.head? = some .tree → token = .literal '/') (text : List Char) :
    Told (token :: tokens) text := by
  have single := accords_single_iff token tokens
  cases text with
  | nil =>
    have step : seek (token :: tokens) [] = .hopeless := by cases token <;> simp_all [seek]
    apply told_of_suffixes
    · simp [step, single _ noRun noTree]
    · intro _ later suffix
      simp [List.suffix_nil.mp suffix, single _ noRun noTree]
  | cons char text =>
    have step : seek (token :: tokens) (char :: text) =
        if token.accepts char then seek tokens text else .missed := by
      cases token <;> simp_all [seek]
    apply told_of_suffixes
    · rw [step, single _ noRun noTree]
      by_cases accepts : token.accepts char = true
      · rw [if_pos accepts, (known text).found_iff]
        simp [accepts]
      · simp [accepts]
    · intro hopeless later suffix accords
      obtain ⟨first, rest, rfl, accepts, goesOn⟩ := (single _ noRun noTree).mp accords
      rw [step] at hopeless
      split at hopeless
      · rcases List.suffix_cons_iff.mp suffix with whole | inside
        · obtain ⟨rfl, rfl⟩ := List.cons.inj whole
          exact (known rest).barred hopeless rest (.inl rfl) goesOn
        · by_cases tree : tokens.head? = some .tree
          · obtain rfl := placed tree
            obtain rfl : '/' = first := by simpa using accepts
            obtain ⟨above, parts⟩ := inside
            exact (known text).barred hopeless rest (.inr ⟨above, parts.symm⟩) goesOn
          · have left : rest <:+ text := (List.suffix_cons first rest).trans inside
            exact (known text).anywhere tree hopeless rest left goesOn
      · cases hopeless

theorem accords_run_cons_iff (tokens : List Token) (char : Char) (text : List Char) :
    Accords (.run :: tokens) (char :: text) ↔
      Accords tokens (char :: text) ∨ char ≠ '/' ∧ Accords (.run :: tokens) text := by
  simp only [accords_run_iff]
  constructor
  · rintro ⟨taken, later, parts, bare, accords⟩
    cases taken with
    | nil =>
      rw [List.nil_append] at parts
      exact .inl (parts ▸ accords)
    | cons first taken =>
      obtain ⟨rfl, rfl⟩ := List.cons.inj parts
      rw [List.mem_cons, not_or] at bare
      exact .inr ⟨Ne.symm bare.1, taken, later, rfl, bare.2, accords⟩
  · rintro (accords | ⟨other, taken, later, rfl, bare, accords⟩)
    · exact ⟨[], _, rfl, List.not_mem_nil, accords⟩
    · exact ⟨char :: taken, later, rfl, by simp [bare, Ne.symm other], accords⟩

theorem told_run (known : ∀ text, Told tokens text) (placed : tokens.head? ≠ some .tree)
    (text : List Char) : Told (.run :: tokens) text := by
  induction text with
  | nil =>
    have same : seek (.run :: tokens) [] = seek tokens [] := rfl
    have reads : Accords (.run :: tokens) [] ↔ Accords tokens [] := by simp [accords_run_iff]
    apply told_of_suffixes
    · rw [same, reads, (known []).found_iff]
    · intro hopeless later suffix
      rw [List.suffix_nil.mp suffix, reads]
      exact (known []).barred hopeless [] (.inl rfl)
  | cons char text ih =>
    have step : seek (.run :: tokens) (char :: text) =
        match seek tokens (char :: text) with
        | .missed => if char = '/' then .missed else seek (.run :: tokens) text
        | outcome => outcome := rfl
    have told := known (char :: text)
    cases tried : seek tokens (char :: text) with
    | found =>
      have accords := told.found_iff.mp tried
      apply told_of_suffixes
      · simp [step, tried, accords_run_cons_iff, accords]
      · simp [step, tried]
    | hopeless =>
      have nowhere : ∀ later, later <:+ char :: text → ¬ Accords (.run :: tokens) later := by
        intro later suffix accords
        obtain ⟨taken, rest, rfl, _, accords⟩ := (accords_run_iff tokens later).mp accords
        exact told.anywhere placed tried rest ((List.suffix_append taken rest).trans suffix) accords
      apply told_of_suffixes
      · simp [step, tried, nowhere]
      · exact fun _ => nowhere
    | missed =>
      have fails := told.not_accords (by simp [tried])
      by_cases slash : char = '/'
      · subst slash
        apply told_of_suffixes
        · simp [step, tried, accords_run_cons_iff, fails]
        · simp [step, tried]
      · apply told_of_suffixes
        · simp [step, tried, slash, accords_run_cons_iff, fails, ih.found_iff]
        · intro hopeless later suffix accords
          have hopeless : seek (.run :: tokens) text = .hopeless := by
            simpa [step, tried, slash] using hopeless
          rcases List.suffix_cons_iff.mp suffix with rfl | inside
          · rcases (accords_run_cons_iff tokens char text).mp accords with accords | ⟨_, accords⟩
            · exact fails accords
            · exact ih.anywhere nofun hopeless text (List.suffix_refl _) accords
          · exact ih.anywhere nofun hopeless later inside accords

section Trees

theorem seek_tree_end (text : List Char) : seek [.tree] text = .found := by
  have under : ∀ text, seekUnder (seek []) text = .found := by
    intro text
    induction text with
    | nil => rfl
    | cons char text ih =>
      rw [seekUnder, ih]
      cases text <;> simp [seek]
  rw [seek, seekTree]
  cases text with
  | nil => rfl
  | cons char text => exact under (char :: text)

theorem seekUnder_cons (attempt : List Char → Outcome) (char : Char) (text : List Char) :
    seekUnder attempt (char :: text) =
      if char = '/' then seekTree attempt text else seekUnder attempt text := rfl

theorem seekUnder_of_accords (known : ∀ text, Told tokens text) (text later : List Char)
    (under : Under text later) (accords : Accords tokens later) :
    seekUnder (seek tokens) text = .found := by
  induction text with
  | nil => simp [Under] at under
  | cons char text ih =>
    rw [seekUnder_cons]
    rcases (under_cons_iff char text later).mp under with ⟨rfl, rfl⟩ | under
    · rw [if_pos rfl, seekTree, (known later).found_iff.mpr accords]
    · have found := ih under
      split
      · rw [seekTree]
        cases tried : seek tokens text with
        | found => rfl
        | missed => exact found
        | hopeless => exact absurd accords ((known text).barred tried later (.inr under))
      · exact found

theorem accords_of_seekUnder (known : ∀ text, Told tokens text) (text : List Char)
    (found : seekUnder (seek tokens) text = .found) :
    (∃ later, Under text later ∧ Accords tokens later) ∨ Accords tokens [] := by
  induction text with
  | nil => exact .inr ((known []).found_iff.mp found)
  | cons char text ih =>
    rw [seekUnder_cons] at found
    split at found
    · rename_i slash
      rw [seekTree] at found
      split at found
      · refine (ih found).imp_left fun ⟨later, under, accords⟩ => ?_
        exact ⟨later, (under_cons_iff char text later).mpr (.inr under), accords⟩
      · have accords := (known text).found_iff.mp found
        exact .inl ⟨text, (under_cons_iff char text text).mpr (.inl ⟨slash, rfl⟩), accords⟩
    · refine (ih found).imp_left fun ⟨later, under, accords⟩ => ?_
      exact ⟨later, (under_cons_iff char text later).mpr (.inr under), accords⟩

theorem not_accords_of_seekUnder (known : ∀ text, Told tokens text) (text : List Char)
    (hopeless : seekUnder (seek tokens) text = .hopeless) (later : List Char)
    (under : Under text later) : ¬ Accords tokens later := by
  intro accords
  rw [seekUnder_of_accords known text later under accords] at hopeless
  cases hopeless

theorem accords_tree_iff_onward (more : tokens ≠ []) (text : List Char) :
    Accords (.tree :: tokens) text ↔ ∃ later, Onward text later ∧ Accords tokens later := by
  rw [accords_tree_iff tokens text more]
  constructor
  · rintro (accords | ⟨above, later, parts, accords⟩)
    · exact ⟨text, .inl rfl, accords⟩
    · exact ⟨later, .inr ⟨above, parts⟩, accords⟩
  · rintro ⟨later, rfl | ⟨above, parts⟩, accords⟩
    · exact .inl accords
    · exact .inr ⟨above, later, parts, accords⟩

theorem told_tree (known : ∀ text, Told tokens text) (text : List Char) :
    Told (.tree :: tokens) text := by
  by_cases final : tokens = []
  · subst final
    have found := seek_tree_end text
    exact ⟨iff_of_true found (.rest text), by simp [found], by simp⟩
  have tree := accords_tree_iff_onward final
  have step : seek (.tree :: tokens) text = seekTree (seek tokens) text := rfl
  refine ⟨?_, ?_, by simp⟩
  · rw [step, tree, seekTree]
    constructor
    · intro found
      split at found
      · rcases accords_of_seekUnder known text found with ⟨later, under, accords⟩ | accords
        · exact ⟨later, .inr under, accords⟩
        · -- Tokens that accord with nothing accord with the last name as well.
          obtain ⟨name, bare, onward⟩ := exists_lastName text
          exact ⟨name, onward, accords_name_of_accords_nil tokens name bare accords final⟩
      · exact ⟨text, .inl rfl, (known text).found_iff.mp found⟩
    · rintro ⟨later, onward, accords⟩
      cases tried : seek tokens text with
      | found => rfl
      | hopeless => exact absurd accords ((known text).barred tried later onward)
      | missed =>
        rcases onward with rfl | under
        · exact absurd accords ((known later).not_accords (by simp [tried]))
        · exact seekUnder_of_accords known text later under accords
  · rw [step, seekTree]
    intro hopeless later onward accords
    obtain ⟨rest, further, accords⟩ := (tree later).mp accords
    cases tried : seek tokens text with
    | found => simp [tried] at hopeless
    | hopeless => exact (known text).barred tried rest (onward.trans further) accords
    | missed =>
      rw [tried] at hopeless
      rcases onward.trans further with rfl | under
      · exact (known rest).not_accords (by simp [tried]) accords
      · exact not_accords_of_seekUnder known text hopeless rest under accords

end Trees

/-- A tree stands at the start, behind a slash or behind another tree. -/
def Placed : (start : Bool) → List Token → Prop
  | _, [] => True
  | start, token :: tokens =>
    (token = .tree → start = true) ∧ Placed (token = .tree ∨ token = .literal '/') tokens

theorem Placed.head {start : Bool} (placed : Placed start tokens)
    (tree : tokens.head? = some .tree) : start = true := by
  cases tokens with
  | nil => cases tree
  | cons token tokens => exact placed.1 (by simpa using tree)

theorem told_of_placed (start : Bool) (placed : Placed start tokens) (text : List Char) :
    Told tokens text := by
  induction tokens generalizing start text with
  | nil => exact told_nil text
  | cons token tokens ih =>
    have known : ∀ text, Told tokens text := ih _ placed.2
    have behind := placed.2.head
    by_cases tree : token = .tree
    · subst tree
      exact told_tree known text
    · by_cases run : token = .run
      · subst run
        exact told_run known (fun begins => by simpa using behind begins) text
      · exact told_single token run tree known
          (fun begins => by simpa [tree] using behind begins) text

theorem Written.placed {before : Option Char} {glob : List Char}
    (written : Written before glob tokens) : Placed (before.all (· = '/')) tokens := by
  induction written with
  | nothing => trivial
  | one before rest tokens _ ih => exact ⟨nofun, ih⟩
  | run before rest tokens _ _ ih => exact ⟨nofun, ih⟩
  | treeEnd before allowed => exact ⟨fun _ => allowed, trivial⟩
  | tree before rest tokens allowed _ ih => exact ⟨fun _ => allowed, ih⟩
  | bracket before body rest negated ranges tokens _ _ ih => exact ⟨nofun, ih⟩
  | literal before char rest tokens _ _ _ _ ih => exact ⟨nofun, by simpa using ih⟩

def squeeze : List Token → List Token
  | [] => []
  | .tree :: .tree :: rest => squeeze (.tree :: rest)
  | token :: rest => token :: squeeze rest

/-- The tokens as they are searched: a tree behind a tree is left out, but for a second token. -/
def squeezed : List Token → List Token
  | [] => []
  | token :: rest => token :: squeeze rest

section Squeezing

theorem accords_tree_tree_iff (tokens : List Token) (text : List Char) :
    Accords (.tree :: .tree :: tokens) text ↔ Accords (.tree :: tokens) text := by
  constructor
  · intro accords
    by_cases final : tokens = []
    · subst final
      exact .rest text
    · obtain ⟨middle, onward, accords⟩ := (accords_tree_iff_onward (by simp) text).mp accords
      obtain ⟨later, further, accords⟩ := (accords_tree_iff_onward final middle).mp accords
      exact (accords_tree_iff_onward final text).mpr ⟨later, onward.trans further, accords⟩
  · exact .here _ text

theorem accords_cons_congr {first second : List Token} (token : Token) (text : List Char)
    (same : ∀ text, Accords first text ↔ Accords second text) (empty : first = [] ↔ second = []) :
    Accords (token :: first) text ↔ Accords (token :: second) text := by
  by_cases tree : token = .tree
  · subst tree
    by_cases final : first = []
    · rw [final, empty.mp final]
    · rw [accords_tree_iff first text final, accords_tree_iff second text (mt empty.mpr final)]
      simp only [same]
  · by_cases run : token = .run
    · subst run
      simp only [accords_run_iff, same]
    · simp only [accords_single_iff token _ _ run tree, same]

theorem squeeze_eq_nil_iff (tokens : List Token) : squeeze tokens = [] ↔ tokens = [] := by
  fun_induction squeeze tokens <;> simp_all

theorem accords_squeeze_iff (tokens : List Token) (text : List Char) :
    Accords (squeeze tokens) text ↔ Accords tokens text := by
  fun_induction squeeze tokens generalizing text with
  | case1 => rfl
  | case2 rest ih => rw [ih, accords_tree_tree_iff]
  | case3 token rest _ ih => exact accords_cons_congr token text ih (squeeze_eq_nil_iff rest)

theorem Placed.squeeze {start : Bool} (placed : Placed start tokens) :
    Placed start (squeeze tokens) := by
  fun_induction Glob.squeeze tokens generalizing start with
  | case1 => trivial
  | case2 rest ih => exact ih ⟨placed.1, placed.2.2⟩
  | case3 token rest _ ih => exact ⟨placed.1, ih placed.2⟩

end Squeezing

/-- Trying finds what the rows of answers tell. -/
theorem seek_found_iff (text : String) (glob : Glob) (compiled : compile text = .ok glob)
    (path : List Char) :
    seek (squeezed glob.tokens) path = .found ↔ glob.matchesChars path = true := by
  have placed := (written_of_compile text glob compiled).2.placed
  rw [matchesChars_iff]
  cases tokens : glob.tokens with
  | nil => exact (told_nil path).found_iff
  | cons token rest =>
    rw [tokens] at placed
    have still : Placed (Option.all (· = '/') none) (token :: squeeze rest) :=
      ⟨placed.1, placed.2.squeeze⟩
    rw [squeezed, (told_of_placed _ still path).found_iff]
    exact accords_cons_congr token path (accords_squeeze_iff rest) (squeeze_eq_nil_iff rest)

end PatternLint.Glob
