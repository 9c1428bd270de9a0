import PatternLint.Proofs.Toml.Value
import PatternLint.Toml.Form

namespace PatternLint.Toml

open Config (Content)

section Writing

variable (quote : String → List Char)

def fieldLine (field : String × Content) : List Char :=
  field.1.toList ++ (' ' :: '=' :: ' ' :: field.2.written quote)

def header : List Char := ['[', '[', 'r', 'u', 'l', 'e', 's', ']', ']']

def lines (config : Config) : List (List Char) :=
  (Config.fields config).map (fieldLine quote) ++
    config.rules.flatMap fun rule => header :: (Config.ruleFields rule).map (fieldLine quote)

def write (config : Config) : List Char := (lines quote config).flatMap fun line => line ++ ['\n']

end Writing

section Statements

def fieldMember (field : String × Content) : String × Value := (field.1, valueOf field.2)

theorem keys_fieldMembers (fields : List (String × Content)) :
    (fields.map fieldMember).map Prod.fst = fields.map Prod.fst := by
  rw [List.map_map]
  rfl

def assignment (member : String × Value) : Statement := .assignment [] member.1 member.2

def ruleStatements (members : Members) : List Statement :=
  .element [] "rules" :: members.map assignment

def ruleMembers (rule : RuleSpec) : Members := (Config.ruleFields rule).map fieldMember

def statements (config : Config) : List Statement :=
  ((Config.fields config).map fieldMember).map assignment ++
    (config.rules.map ruleMembers).flatMap ruleStatements

structure Reads (line : List Char) (statement : Statement) : Prop where
  begins : ∀ after, dropSpace false (line ++ after) = some (line ++ after)
  given : line ≠ []
  read : ∀ after, readStatement (line ++ '\n' :: after) = some (statement, '\n' :: after)

variable {lines : List (List Char)} {statements : List Statement}

theorem dropSpace_lines (reads : List.Forall₂ Reads lines statements) :
    dropSpace false (lines.flatMap fun line => line ++ ['\n']) =
      some (lines.flatMap fun line => line ++ ['\n']) := by
  cases reads with
  | nil => rfl
  | cons here =>
    rw [List.flatMap_cons, List.append_assoc]
    exact here.begins _

theorem readStatements_lines (reads : List.Forall₂ Reads lines statements) (fuel : Nat)
    (enough : lines.length < fuel) (text : List Char)
    (begins : dropSpace false text = some (lines.flatMap fun line => line ++ ['\n'])) :
    readStatements fuel text = some statements := by
  induction reads generalizing fuel text with
  | nil =>
    obtain ⟨fuel, rfl⟩ := Nat.exists_eq_add_of_lt enough
    rw [readStatements, begins]
    rfl
  | @cons line statement lines statements here later ih =>
    cases fuel with
    | zero => exact absurd enough (Nat.not_lt_zero _)
    | succ fuel =>
      have further := ih fuel (Nat.lt_of_succ_lt_succ enough)
        ('\n' :: lines.flatMap fun line => line ++ ['\n']) (dropSpace_lines later)
      have read := here.read (lines.flatMap fun line => line ++ ['\n'])
      obtain ⟨first, more, same⟩ := List.exists_cons_of_ne_nil here.given
      rw [List.flatMap_cons, List.append_assoc, List.singleton_append] at begins
      rw [same, List.cons_append] at begins read
      rw [readStatements, begins]
      simp [read, endsLine, dropBlanks, isBlank, further]

end Statements

section Keys

def IsBare (key : List Char) : Prop := key ≠ [] ∧ key.all isKeyChar = true

theorem IsBare.head {key : List Char} (bare : IsBare key) :
    ∃ first more, key = first :: more ∧ isKeyChar first = true := by
  obtain ⟨first, more, rfl⟩ := List.exists_cons_of_ne_nil bare.1
  exact ⟨first, more, rfl, List.all_eq_true.mp bare.2 first List.mem_cons_self⟩

theorem readKeyPart_bare (key rest : List Char) (bare : IsBare key)
    (stop : ∀ char ∈ rest.head?, isKeyChar char = false) :
    readKeyPart (key ++ rest) = some (String.ofList key, rest) := by
  have inside := List.all_eq_true.mp bare.2
  have taken := Text.takeWhile_run isKeyChar key rest inside stop
  have dropped := Text.dropWhile_run isKeyChar key rest inside stop
  obtain ⟨first, more, rfl, begins⟩ := bare.head
  have double : first ≠ '"' := Text.ne_of_kinds isKeyChar begins (by decide)
  have single : first ≠ '\'' := Text.ne_of_kinds isKeyChar begins (by decide)
  rw [List.cons_append] at taken dropped ⊢
  simp [readKeyPart, double, single, taken, dropped]

theorem not_isBlank_of_isKeyChar (char : Char) (inside : isKeyChar char = true) :
    isBlank char = false := by
  have space : char ≠ ' ' := Text.ne_of_kinds isKeyChar inside (by decide)
  have tab : char ≠ '\t' := Text.ne_of_kinds isKeyChar inside (by decide)
  simp [isBlank, space, tab]

theorem readKey_bare (fuel : Nat) (key rest : List Char) (bare : IsBare key)
    (stop : ∀ char ∈ rest.head?, isKeyChar char = false)
    (apart : (dropBlanks rest).head? ≠ some '.') :
    readKey (fuel + 1) (key ++ rest) = some ([], String.ofList key, dropBlanks rest) := by
  have part := readKeyPart_bare key rest bare stop
  obtain ⟨first, more, rfl, begins⟩ := bare.head
  have kept : dropBlanks (first :: more ++ rest) = first :: more ++ rest :=
    List.dropWhile_cons_of_neg (by rw [not_isBlank_of_isKeyChar first begins]; decide)
  rw [readKey, kept, part]
  simp only [bind, Option.bind]
  split
  · next after same =>
    rw [same] at apart
    exact absurd rfl apart
  · rfl

end Keys

section Lines

variable (quote : String → List Char) (quotes : Text.Quotes escapes quote)

include quotes

theorem dropBlanks_written (content : Content) (rest : List Char) :
    dropBlanks (content.written quote ++ rest) = content.written quote ++ rest := by
  obtain ⟨first, more, same, begins⟩ := Config.written_begins quote quotes content
  have visible : ¬ isBlank first = true := by
    rcases begins with rfl | rfl | letter
    · decide
    · decide
    · have inside : isKeyChar first = true := by
        simp [isKeyChar, letter]
      rw [not_isBlank_of_isKeyChar first inside]
      decide
  rw [same, List.cons_append]
  exact List.dropWhile_cons_of_neg visible

theorem readStatement_fieldLine (field : String × Content) (bare : IsBare field.1.toList)
    (fit : field.2.Fits) (after : List Char) :
    readStatement (fieldLine quote field ++ '\n' :: after) =
      some (assignment (fieldMember field), '\n' :: after) := by
  let rest := ' ' :: '=' :: ' ' :: (field.2.written quote ++ '\n' :: after)
  have whole : fieldLine quote field ++ '\n' :: after = field.1.toList ++ rest := by
    simp [fieldLine, rest]
  have key (fuel : Nat) : readKey (fuel + 1) (field.1.toList ++ rest) =
      some ([], field.1, '=' :: ' ' :: (field.2.written quote ++ '\n' :: after)) := by
    have read := readKey_bare fuel field.1.toList rest bare (by simp [rest, isKeyChar])
      (by simp [rest, dropBlanks, isBlank])
    rwa [String.ofList_toList] at read
  have value (fuel : Nat) (enough : (field.2.written quote).length < fuel) :
      readValue fuel 0 (dropBlanks (' ' :: (field.2.written quote ++ '\n' :: after))) =
        some (valueOf field.2, '\n' :: after) := by
    have blank : dropBlanks (' ' :: (field.2.written quote ++ '\n' :: after)) =
        dropBlanks (field.2.written quote ++ '\n' :: after) := rfl
    rw [blank, dropBlanks_written quote quotes]
    exact readValue_written quote quotes field.2 fit ('\n' :: after) rfl fuel enough
  have size : (field.2.written quote).length < (field.1.toList ++ rest).length := by
    simp only [rest, List.length_append, List.length_cons]
    omega
  obtain ⟨fuel, length⟩ := Nat.exists_eq_add_of_lt (Nat.zero_lt_of_lt size)
  have bracket : ∀ text, field.1.toList ++ rest ≠ '[' :: text := by
    obtain ⟨first, more, same, begins⟩ := bare.head
    intro text equal
    rw [same, List.cons_append] at equal
    exact Text.ne_of_kinds isKeyChar begins (by decide) (List.cons.inj equal).1
  have read := value _ size
  rw [whole, readStatement]
  · rw [length, Nat.zero_add] at read ⊢
    simp only [key fuel, bind, Option.bind, read]
    rfl
  · exact fun text => bracket ('[' :: text)
  · exact bracket

theorem reads_fieldLine (field : String × Content) (bare : IsBare field.1.toList)
    (fit : field.2.Fits) : Reads (fieldLine quote field) (assignment (fieldMember field)) := by
  refine ⟨?_, ?_, readStatement_fieldLine quote quotes field bare fit⟩
  · intro after
    obtain ⟨first, more, same, begins⟩ := bare.head
    have blank := not_isBlank_of_isKeyChar first begins
    have comment : first ≠ '#' := Text.ne_of_kinds isKeyChar begins (by decide)
    rw [fieldLine, same, List.cons_append, List.cons_append, dropSpace, blank, if_neg comment]
    · rfl
    · exact Text.ne_of_kinds isKeyChar begins (by decide)
    · intro rest carriage
      exact absurd carriage (Text.ne_of_kinds isKeyChar begins (by decide))
  · simp [fieldLine]

omit quotes in
theorem reads_header : Reads header (.element [] "rules") where
  begins _ := rfl
  given := List.cons_ne_nil _ _
  read after := by
    have key (fuel : Nat) :
        readKey (fuel + 1) (['r', 'u', 'l', 'e', 's'] ++ ']' :: ']' :: '\n' :: after) =
          some ([], "rules", ']' :: ']' :: '\n' :: after) :=
      readKey_bare fuel _ _ ⟨List.cons_ne_nil _ _, rfl⟩ (by simp [isKeyChar])
        (by simp [dropBlanks, isBlank])
    have whole : header ++ '\n' :: after =
        '[' :: '[' :: (['r', 'u', 'l', 'e', 's'] ++ ']' :: ']' :: '\n' :: after) := rfl
    rw [whole]
    rw [readStatement]
    simp only [List.length_cons, key, bind, Option.bind]
    rfl

end Lines

section Building

/-- What is done to a table at a place is done inside of what is around it. -/
def Surrounds (place : List String) (around : Members → Members) : Prop :=
  ∀ act inner, within false act place .explicit (around inner) =
    (act .explicit inner).map around

theorem surrounds_top : Surrounds [] id := by
  intro act inner
  rw [Option.map_id]
  rfl

theorem value?_eq_none (members : Members) (key : String) (free : key ∉ members.map Prod.fst) :
    members.value? key = none := by
  have missing : List.find? (fun member => member.1 = key) members = none := by
    apply List.find?_eq_none.mpr
    intro member present same
    apply free
    rw [← of_decide_eq_true same]
    exact List.mem_map_of_mem present
  rw [Members.value?, missing]
  rfl

theorem put_new (key : String) (value : Value) (members : Members)
    (free : key ∉ members.map Prod.fst) :
    put [] key value .explicit members = some (members ++ [(key, value)]) := by
  simp [put, within, assign, value?_eq_none members key free]

theorem build_assignments (place : List String) (around : Members → Members)
    (surrounds : Surrounds place around) (inner members : Members)
    (distinct : ((inner ++ members).map Prod.fst).Nodup) (rest : List Statement) :
    build place (around inner)
        (members.map assignment ++ rest) =
      build place (around (inner ++ members)) rest := by
  induction members generalizing inner with
  | nil => simp
  | cons member members ih =>
    have free : member.1 ∉ inner.map Prod.fst := by
      intro present
      rw [List.map_append] at distinct
      exact (List.nodup_append.mp distinct).2.2 _ present _ List.mem_cons_self rfl
    have further := ih (inner ++ [member]) (by simpa using distinct)
    rw [List.map_cons, List.cons_append, assignment, build, surrounds, put_new _ _ _ free]
    simpa using further

end Building

section Rules

variable (top : Members) (free : "rules" ∉ top.map Prod.fst)

include free

theorem value?_rules (value : Value) : (top ++ [("rules", value)]).value? "rules" = some value := by
  have missing := value?_eq_none top "rules" free
  rw [Members.value?, Option.map_eq_none_iff] at missing
  rw [Members.value?, List.find?_append, missing]
  rfl

theorem replace_rules (value new : Value) :
    (top ++ [("rules", value)]).replace "rules" new = top ++ [("rules", new)] := by
  have kept : top.map (fun member => if member.1 = "rules" then ("rules", new) else member) =
      top.map id := by
    apply List.map_congr_left
    intro member present
    have apart : member.1 ≠ "rules" := fun same => free (same ▸ List.mem_map_of_mem present)
    exact if_neg apart
  rw [Members.replace, List.map_append, kept, List.map_id]
  rfl

theorem surrounds_rules (earlier : List Members) :
    Surrounds ["rules"] fun last => top ++ [("rules", .tables earlier last)] := by
  intro act inner
  simp only [within, value?_rules top free, replace_rules top free]

/-- A rule that was read before the others comes before them. -/
theorem build_rules (rules : List Members)
    (distinct : ∀ members ∈ rules, (members.map Prod.fst).Nodup) (place : List String)
    (earlier : List Members) (last : Members) :
    ∃ earlier' last', earlier' ++ [last'] = earlier ++ last :: rules ∧
      build place (top ++ [("rules", .tables earlier last)]) (rules.flatMap ruleStatements) =
        some (top ++ [("rules", .tables earlier' last')]) := by
  induction rules generalizing place earlier last with
  | nil => exact ⟨earlier, last, rfl, rfl⟩
  | cons members rules ih =>
    obtain ⟨earlier', last', order, built⟩ := ih
      (fun other present => distinct other (List.mem_cons_of_mem _ present)) ["rules"]
      (earlier ++ [last]) members
    refine ⟨earlier', last', by simpa using order, ?_⟩
    have opened : within false (openElement "rules") [] .explicit
        (top ++ [("rules", .tables earlier last)]) =
          some (top ++ [("rules", .tables (earlier ++ [last]) [])]) := by
      simp only [within, openElement, value?_rules top free, replace_rules top free]
    have filled := build_assignments ["rules"] _ (surrounds_rules top free (earlier ++ [last])) []
      members (by simpa using distinct members List.mem_cons_self) (rules.flatMap ruleStatements)
    rw [List.flatMap_cons, ruleStatements, List.cons_append, build, opened]
    exact filled.trans built

end Rules

section Showing

theorem shows_integer (members : Members) (number : Int) (value : Nat)
    (told : count? number = some value) :
    Config.Shows (document members) (Value.integer number) (.count value) :=
  .count value { natural? := count? number } rfl told rfl

theorem shows_valueOf (members : Members) (content : Content) (fit : content.Fits) :
    Config.Shows (document members) (valueOf content) content := by
  cases content with
  | text value => exact .text value _ rfl rfl rfl
  | texts values =>
    exact .texts values (values.map Value.text) rfl
      (Config.forall₂_map_left Value.text values fun value _ => rfl)
  | flag value => exact .flag value _ rfl rfl rfl
  | count value =>
    have small : (value : Int) < Config.countLimit :=
      Int.ofNat_lt.mpr (Content.lt_countLimit value fit)
    have told : count? (value : Int) = some value := by
      rw [count?, if_pos ⟨Int.natCast_nonneg value, small⟩, Int.toNat_natCast]
    exact shows_integer members value value told

theorem showsFields_fieldMembers (members : Members) (fields : List (String × Content))
    (fit : ∀ field ∈ fields, field.2.Fits) :
    Config.ShowsFields (document members) (fields.map fieldMember) fields :=
  Config.showsFields_map (document members) valueOf (shows_valueOf members) fields fit

theorem showsRules_tables (members : Members) (rules : List RuleSpec) (earlier : List Members)
    (last : Members) (order : earlier ++ [last] = rules.map ruleMembers) :
    Config.ShowsRules (document members) [("rules", .tables earlier last)] rules := by
  refine .given _ (rules.map fun rule => Value.table .explicit (ruleMembers rule)) rules ?_ ?_
  · have items : (earlier ++ [last]).map (Value.table .explicit) =
        rules.map fun rule => Value.table .explicit (ruleMembers rule) := by
      rw [order, List.map_map]
      rfl
    exact congrArg (fun items => some (Config.Form.list items)) items
  · exact Config.forall₂_map_left _ rules fun rule _ => ⟨ruleMembers rule, rfl,
      showsFields_fieldMembers members _ (Config.fits_ruleFields rule)⟩

end Showing

theorem distinct_ruleMembers (rule : RuleSpec) : ((ruleMembers rule).map Prod.fst).Nodup := by
  rw [ruleMembers, keys_fieldMembers]
  exact (Config.keys_ruleFields rule).nodup (by decide)

/-- The table of a configuration has its keys in order, and behind them the rules in theirs. -/
theorem ofStatements?_statements (config : Config) :
    ∃ more, ofStatements? (statements config) =
        some ((Config.fields config).map fieldMember ++ more) ∧
      ∀ members, Config.ShowsRules (document members) more config.rules := by
  have distinct : (((Config.fields config).map fieldMember).map Prod.fst).Nodup := by
    rw [keys_fieldMembers]
    exact (Config.keys_fields config).nodup (by decide)
  have filled := build_assignments [] id surrounds_top [] _ distinct
    ((config.rules.map ruleMembers).flatMap ruleStatements)
  have opened : ofStatements? (statements config) =
      build [] ((Config.fields config).map fieldMember)
        ((config.rules.map ruleMembers).flatMap ruleStatements) := filled
  cases rules : config.rules with
  | nil =>
    refine ⟨[], ?_, fun members => .none⟩
    rw [opened, rules, List.append_nil]
    rfl
  | cons rule others =>
    have free : "rules" ∉ ((Config.fields config).map fieldMember).map Prod.fst := by
      rw [keys_fieldMembers]
      exact fun present => absurd ((Config.keys_fields config).subset present) (by decide)
    have first : within false (openElement "rules") [] .explicit
        ((Config.fields config).map fieldMember) =
          some ((Config.fields config).map fieldMember ++ [("rules", .tables [] [])]) := by
      simp only [within, openElement, value?_eq_none _ _ free]
    have filled := build_assignments ["rules"] _
      (surrounds_rules ((Config.fields config).map fieldMember) free []) [] (ruleMembers rule)
      (distinct_ruleMembers rule) ((others.map ruleMembers).flatMap ruleStatements)
    obtain ⟨earlier, last, order, built⟩ := build_rules _ free (others.map ruleMembers)
      (by simpa using fun rule _ => distinct_ruleMembers rule) ["rules"] [] (ruleMembers rule)
    refine ⟨[("rules", .tables earlier last)], ?_, fun members =>
      showsRules_tables members (rule :: others) earlier last order⟩
    rw [opened, rules, List.map_cons, List.flatMap_cons, ruleStatements, List.cons_append, build,
      first]
    exact filled.trans built

section Whole

variable (quote : String → List Char) (quotes : Text.Quotes escapes quote)

include quotes

theorem reads_fieldLines (fields : List (String × Content)) (keys : List String)
    (within : (fields.map Prod.fst).Sublist keys) (bare : ∀ key ∈ keys, IsBare key.toList)
    (fit : ∀ field ∈ fields, field.2.Fits) :
    List.Forall₂ Reads (fields.map (fieldLine quote))
      ((fields.map fieldMember).map assignment) := by
  rw [List.map_map, List.forall₂_map_right_iff]
  apply Config.forall₂_map_left
  intro field present
  have key : field.1 ∈ keys := within.subset (List.mem_map_of_mem present)
  exact reads_fieldLine quote quotes field (bare field.1 key) (fit field present)

theorem reads_rules (rules : List RuleSpec) :
    List.Forall₂ Reads
      (rules.flatMap fun rule => header :: (Config.ruleFields rule).map (fieldLine quote))
      ((rules.map ruleMembers).flatMap ruleStatements) := by
  induction rules with
  | nil => exact .nil
  | cons rule rules ih =>
    have bare : ∀ key ∈ Config.ruleKeys, IsBare key.toList := by
      simp [Config.ruleKeys, IsBare, isKeyChar]
    have own := reads_fieldLines quote quotes (Config.ruleFields rule) _
      (Config.keys_ruleFields rule) bare (Config.fits_ruleFields rule)
    rw [List.map_cons, List.flatMap_cons, List.flatMap_cons]
    exact List.rel_append (.cons reads_header own) ih

theorem reads_lines (config : Config) (small : ∀ count ∈ config.threads, count < 2 ^ 63) :
    List.Forall₂ Reads (lines quote config) (statements config) := by
  have bare : ∀ key ∈ Config.ownKeys, IsBare key.toList := by
    simp [Config.ownKeys, IsBare, isKeyChar]
  have own := reads_fieldLines quote quotes (Config.fields config) _ (Config.keys_fields config)
    bare (Config.fits_fields config small)
  exact List.rel_append own (reads_rules quote quotes config.rules)

omit quotes in
theorem length_lines_le (lines : List (List Char)) :
    lines.length ≤ (lines.flatMap fun line => line ++ ['\n']).length := by
  induction lines with
  | nil => exact Nat.le_refl _
  | cons line lines ih =>
    rw [List.flatMap_cons, List.length_append, List.length_append, List.length_cons]
    simp only [List.length_singleton]
    omega

omit quotes in
theorem statements?_write (config : Config) :
    statements? (write quote config) =
      readStatements ((write quote config).length + 1) (write quote config) := by
  have begins : (write quote config).head? ≠ some '\ufeff' := by
    cases given : config.output <;>
      simp [write, lines, Config.fields, Config.optionalField, given, fieldLine]
  unfold statements?
  split
  · next rest same =>
    rw [same] at begins
    exact absurd rfl begins
  · rfl

theorem read?_write (config : Config) (small : ∀ count ∈ config.threads, count < 2 ^ 63) :
    ∃ members, read? (String.ofList (write quote config)) = some members ∧
      Config.ShowsConfig (document members) config := by
  have reads := reads_lines quote quotes config small
  have read := readStatements_lines reads ((write quote config).length + 1)
    (Nat.lt_succ_of_le (length_lines_le _)) (write quote config) (dropSpace_lines reads)
  obtain ⟨more, built, rules⟩ := ofStatements?_statements config
  refine ⟨(Config.fields config).map fieldMember ++ more, ?_,
    (Config.fields config).map fieldMember, more, rfl,
    showsFields_fieldMembers _ _ (Config.fits_fields config small), rules _⟩
  rw [read?, String.toList_ofList, statements?_write, read]
  exact built

end Whole

end PatternLint.Toml
