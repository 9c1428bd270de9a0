import Mathlib.Data.List.Basic
import PatternLint.Proofs.Json.Grammar

/-!
No text stands for two values. Where the grammar lets a part of a text go on, what may follow the
part tells where it ends: a run of blanks or digits ends where something else stands.
-/

namespace PatternLint.JsonGrammar

def Misses (kind : Char → Bool) (text : List Char) : Prop := ∀ char ∈ text.head?, kind char = false

@[simp]
theorem misses_nil (kind : Char → Bool) : Misses kind [] := nofun

@[simp]
theorem misses_cons_iff (kind : Char → Bool) (char : Char) (rest : List Char) :
    Misses kind (char :: rest) ↔ kind char = false := by
  simp [Misses]

theorem run_unique (kind : Char → Bool) (one other rest more : List Char)
    (all : ∀ char ∈ one, kind char = true) (allOther : ∀ char ∈ other, kind char = true)
    (ends : Misses kind rest) (endsOther : Misses kind more) (same : one ++ rest = other ++ more) :
    one = other ∧ rest = more := by
  induction one generalizing other with
  | nil =>
    cases other with
    | nil => exact ⟨rfl, same⟩
    | cons char other =>
      rw [List.nil_append] at same
      rw [same, List.cons_append, misses_cons_iff, allOther char List.mem_cons_self] at ends
      cases ends
  | cons char one ih =>
    cases other with
    | nil =>
      rw [List.nil_append] at same
      rw [← same, List.cons_append, misses_cons_iff, all char List.mem_cons_self] at endsOther
      cases endsOther
    | cons letter other =>
      obtain ⟨head, tail⟩ := List.cons.inj same
      obtain ⟨runs, rests⟩ := ih other (fun char member => all char (List.mem_cons_of_mem _ member))
        (fun char member => allOther char (List.mem_cons_of_mem _ member)) tail
      exact ⟨by rw [head, runs], rests⟩

theorem blanks_unique (text one other : List Char) (first : Blanks text one)
    (second : Blanks text other) (ends : Misses isBlank one) (endsOther : Misses isBlank other) :
    one = other := by
  rcases first with ⟨blanks, parts, all⟩
  rcases second with ⟨others, otherParts, allOther⟩
  exact (run_unique isBlank blanks others one other all allOther ends endsOther
    (parts.symm.trans otherParts)).2

section Letters

theorem escaped?_u : escaped? 'u' = none := by decide

theorem toNat_not_surrogate (char : Char) : char.toNat < 0xd800 ∨ 0xdfff < char.toNat := by
  rcases char.valid with low | high
  · exact .inl low
  · exact .inr high.1

theorem letter_unique (text rest more : List Char) (char other : Char)
    (first : Letter text char rest) (second : Letter text other more) :
    char = other ∧ rest = more := by
  have bound := toNat_not_surrogate char
  have otherBound := toNat_not_surrogate other
  cases first with
  | plain _ _ quote backslash _ =>
    cases second with
    | plain => exact ⟨rfl, rfl⟩
    | escape => exact absurd rfl backslash
    | unit => exact absurd rfl backslash
    | pair => exact absurd rfl backslash
  | escape mark _ _ stands =>
    cases second with
    | plain _ _ _ backslash => exact absurd rfl backslash
    | escape _ _ _ standsOther =>
      rw [stands] at standsOther
      exact ⟨Option.some.inj standsOther, rfl⟩
    | unit => rw [escaped?_u] at stands; cases stands
    | pair => rw [escaped?_u] at stands; cases stands
  | unit _ _ _ _ _ _ code =>
    cases second with
    | plain _ _ _ backslash => exact absurd rfl backslash
    | escape _ _ _ stands => rw [escaped?_u] at stands; cases stands
    | unit _ _ _ _ _ _ codeOther =>
      rw [code] at codeOther
      exact ⟨Char.toNat_inj.mp (Option.some.inj codeOther), rfl⟩
    | pair _ _ _ _ _ _ _ _ _ high _ _ codeOther few =>
      rw [code] at codeOther
      have surrogate := Option.some.inj codeOther
      omega
  | pair _ _ _ _ _ _ _ _ _ high low _ code few lowCode lowFew joined =>
    cases second with
    | plain _ _ _ backslash => exact absurd rfl backslash
    | escape _ _ _ stands => rw [escaped?_u] at stands; cases stands
    | unit _ _ _ _ _ _ codeOther =>
      rw [code] at codeOther
      have surrogate := Option.some.inj codeOther
      omega
    | pair _ _ _ _ _ _ _ _ _ highOther lowOther _ codeOther _ lowCodeOther _ joinedOther =>
      rw [code] at codeOther
      rw [lowCode] at lowCodeOther
      have highs := Option.some.inj codeOther
      have lows := Option.some.inj lowCodeOther
      exact ⟨Char.toNat_inj.mp (by omega), rfl⟩

theorem chars_unique (text value rest other more : List Char) (first : Chars text value rest)
    (second : Chars text other more) : value = other ∧ rest = more := by
  induction first generalizing other with
  | close rest =>
    cases second with
    | close => exact ⟨rfl, rfl⟩
    | letter _ _ _ _ char begins _ =>
      cases begins with
      | plain _ _ quote => exact absurd rfl quote
  | letter text after value rest char begins _ ih =>
    cases second with
    | close =>
      cases begins with
      | plain _ _ quote => exact absurd rfl quote
    | letter _ _ otherValue _ otherChar beginsOther goesOn =>
      obtain ⟨chars, afters⟩ := letter_unique _ _ _ _ _ begins beginsOther
      subst chars afters
      obtain ⟨values, rests⟩ := ih _ goesOn
      exact ⟨by rw [values], rests⟩

end Letters

section Numbers

def isSign (char : Char) : Bool := char = '+' || char = '-'

def isDigitOrPoint (char : Char) : Bool := char.isDigit || char = '.'

def continuesNumber (char : Char) : Bool := isDigitOrPoint char || char = 'e' || char = 'E'

theorem Misses.mono {kind other : Char → Bool} (text : List Char) (misses : Misses kind text)
    (wider : ∀ char, other char = true → kind char = true) : Misses other text := by
  intro char member
  have free := misses char member
  by_contra hit
  rw [wider char (by simpa using hit)] at free
  cases free

theorem digits_miss_sign (digits rest : List Char) (given : digits ≠ [])
    (all : AllDigits digits) : Misses isSign (digits ++ rest) := by
  cases digits with
  | nil => exact absurd rfl given
  | cons char digits =>
    have digit := all char List.mem_cons_self
    rw [List.cons_append, misses_cons_iff]
    by_contra hit
    simp only [isSign, Bool.or_eq_true, decide_eq_true_eq, Bool.not_eq_false] at hit
    rcases hit with same | same <;> (subst same; cases digit)

theorem sign_unique (one other rest more : List Char) (negative negativeOther : Bool)
    (first : Sign one negative) (second : Sign other negativeOther) (ends : Misses isSign rest)
    (endsOther : Misses isSign more) (same : one ++ rest = other ++ more) :
    one = other ∧ negative = negativeOther ∧ rest = more := by
  cases first <;> cases second <;> simp_all [isSign]
  case plus.none => simp [← same, isSign] at endsOther
  case minus.none => simp [← same, isSign] at endsOther

/-- A number ends behind its exponent, whatever stands there that does not go on with it. -/
theorem exponent_unique (one other rest more : List Char) (power powerOther : Int)
    (first : Exponent one power) (second : Exponent other powerOther)
    (ends : Misses continuesNumber rest) (endsOther : Misses continuesNumber more)
    (same : one ++ rest = other ++ more) : power = powerOther ∧ rest = more := by
  have narrower : ∀ char : Char, char.isDigit = true → continuesNumber char = true := by
    intro char digit
    simp [continuesNumber, isDigitOrPoint, digit]
  cases first with
  | none =>
    cases second with
    | none => exact ⟨rfl, same⟩
    | some mark sign digits negative letter =>
      rw [List.nil_append] at same
      rcases letter with letter | letter <;> simp [same, letter, continuesNumber] at ends
  | some mark sign digits negative letter signed given all =>
    cases second with
    | none =>
      rw [List.nil_append] at same
      rcases letter with letter | letter <;> simp [← same, letter, continuesNumber] at endsOther
    | some markOther signOther digitsOther negativeOther letterOther signedOther givenOther
        allOther =>
      simp only [List.cons_append, List.append_assoc, List.cons.injEq] at same
      obtain ⟨_, signs, tails⟩ := sign_unique _ _ _ _ _ _ signed signedOther
        (digits_miss_sign digits rest given all)
        (digits_miss_sign digitsOther more givenOther allOther) same.2
      obtain ⟨runs, rests⟩ := run_unique Char.isDigit _ _ _ _ all allOther
        (ends.mono rest narrower) (endsOther.mono more narrower) tails
      exact ⟨by rw [signs, runs], rests⟩

theorem exponent_misses (exponent rest : List Char) (power : Int)
    (exponential : Exponent exponent power) (ends : Misses continuesNumber rest) :
    Misses isDigitOrPoint (exponent ++ rest) := by
  cases exponential with
  | none =>
    apply ends.mono
    intro char hit
    simp [continuesNumber, hit]
  | some mark sign digits negative letter =>
    rcases letter with letter | letter <;> simp [letter] <;> decide

theorem fraction_unique (one other digits digitsOther rest more : List Char)
    (first : Fraction one digits) (second : Fraction other digitsOther)
    (ends : Misses isDigitOrPoint rest) (endsOther : Misses isDigitOrPoint more)
    (same : one ++ rest = other ++ more) : digits = digitsOther ∧ rest = more := by
  have narrower : ∀ char : Char, char.isDigit = true → isDigitOrPoint char = true := by
    intro char digit
    simp [isDigitOrPoint, digit]
  cases first with
  | none =>
    cases second with
    | none => exact ⟨rfl, same⟩
    | some =>
      rw [List.nil_append] at same
      simp [same, isDigitOrPoint] at ends
  | some _ given all =>
    cases second with
    | none =>
      rw [List.nil_append] at same
      simp [← same, isDigitOrPoint] at endsOther
    | some _ givenOther allOther =>
      exact run_unique Char.isDigit _ _ _ _ all allOther (ends.mono rest narrower)
        (endsOther.mono more narrower) (List.cons.inj same).2

theorem fraction_misses (fraction digits rest : List Char) (fractional : Fraction fraction digits)
    (ends : Misses isDigitOrPoint rest) : Misses Char.isDigit (fraction ++ rest) := by
  cases fractional with
  | none =>
    apply ends.mono
    intro char hit
    simp [isDigitOrPoint, hit]
  | some => simp

theorem whole_digits (whole : List Char) (natural : Whole whole) :
    whole ≠ [] ∧ AllDigits whole := by
  cases natural with
  | zero => exact ⟨by simp, by simp [AllDigits]⟩
  | digits first rest _ all => exact ⟨by simp, all⟩

theorem unsigned_unique (one other rest more : List Char) (digits digitsOther : Nat)
    (power powerOther : Int) (first : Unsigned one digits power)
    (second : Unsigned other digitsOther powerOther) (ends : Misses continuesNumber rest)
    (endsOther : Misses continuesNumber more) (same : one ++ rest = other ++ more) :
    digits = digitsOther ∧ power = powerOther ∧ rest = more := by
  rcases first with ⟨whole, fraction, places, exponent, power, natural, fractional, exponential⟩
  rcases second with ⟨whole', fraction', places', exponent', power', natural', fractional',
    exponential'⟩
  simp only [List.append_assoc] at same
  have tail := exponent_misses exponent rest power exponential ends
  have tail' := exponent_misses exponent' more power' exponential' endsOther
  obtain ⟨wholes, later⟩ := run_unique Char.isDigit _ _ _ _ (whole_digits whole natural).2
    (whole_digits whole' natural').2 (fraction_misses _ _ _ fractional tail)
    (fraction_misses _ _ _ fractional' tail') same
  obtain ⟨fractions, later⟩ :=
    fraction_unique _ _ _ _ _ _ fractional fractional' tail tail' later
  obtain ⟨powers, rests⟩ :=
    exponent_unique _ _ _ _ _ _ exponential exponential' ends endsOther later
  exact ⟨by rw [wholes, fractions], by rw [powers, fractions], rests⟩

theorem unsigned_head (text : List Char) (digits : Nat) (power : Int)
    (unsigned : Unsigned text digits power) :
    ∃ char rest, text = char :: rest ∧ char.isDigit = true := by
  rcases unsigned with ⟨whole, fraction, places, exponent, power, natural, _, _⟩
  obtain ⟨given, all⟩ := whole_digits whole natural
  cases whole with
  | nil => exact absurd rfl given
  | cons char whole => exact ⟨char, _, rfl, all char List.mem_cons_self⟩

theorem number_head (text : List Char) (decimal : Decimal) (number : Number text decimal) :
    ∃ char rest, text = char :: rest ∧ (char = '-' ∨ char.isDigit = true) := by
  cases number with
  | positive _ _ _ unsigned =>
    obtain ⟨char, rest, parts, digit⟩ := unsigned_head _ _ _ unsigned
    exact ⟨char, rest, parts, .inr digit⟩
  | negative => exact ⟨_, _, rfl, .inl rfl⟩

theorem number_starts (char : Char) (text digits rest : List Char) (decimal : Decimal)
    (number : Number digits decimal) (same : char :: text = digits ++ rest) :
    char = '-' ∨ char.isDigit = true := by
  obtain ⟨first, after, parts, kind⟩ := number_head digits decimal number
  rw [parts] at same
  exact (List.cons.inj same).1 ▸ kind

theorem number_unique (one other rest more : List Char) (decimal decimalOther : Decimal)
    (first : Number one decimal) (second : Number other decimalOther)
    (ends : Misses continuesNumber rest) (endsOther : Misses continuesNumber more)
    (same : one ++ rest = other ++ more) : decimal = decimalOther ∧ rest = more := by
  cases first with
  | positive _ digits power unsigned =>
    cases second with
    | positive _ _ _ unsignedOther =>
      obtain ⟨values, powers, rests⟩ :=
        unsigned_unique _ _ _ _ _ _ _ _ unsigned unsignedOther ends endsOther same
      exact ⟨by rw [values, powers], rests⟩
    | negative _ _ _ unsignedOther =>
      obtain ⟨char, tail, parts, digit⟩ := unsigned_head _ _ _ unsigned
      rw [parts] at same
      obtain ⟨dash, _⟩ := List.cons.inj same
      rw [dash] at digit
      cases digit
  | negative _ digits power unsigned =>
    cases second with
    | positive _ _ _ unsignedOther =>
      obtain ⟨char, tail, parts, digit⟩ := unsigned_head _ _ _ unsignedOther
      rw [parts] at same
      obtain ⟨dash, _⟩ := List.cons.inj same
      rw [← dash] at digit
      cases digit
    | negative _ _ _ unsignedOther =>
      obtain ⟨values, powers, rests⟩ := unsigned_unique _ _ _ _ _ _ _ _ unsigned unsignedOther
        ends endsOther (List.cons.inj same).2
      exact ⟨by rw [values, powers], rests⟩

end Numbers

theorem mark_unique (text rest more : List Char) (mark other : Char)
    (first : Blanks text (mark :: rest)) (second : Blanks text (other :: more))
    (solid : isBlank mark = false) (solidOther : isBlank other = false) :
    mark = other ∧ rest = more :=
  List.cons.inj (blanks_unique text _ _ first second (by simpa) (by simpa))

theorem blank_ends_number (char : Char) (blank : isBlank char = true) :
    continuesNumber char = false ∧ char ≠ '-' := by
  have same : char = ' ' ∨ char = '\t' ∨ char = '\n' ∨ char = '\r' := by
    simpa [isBlank, or_assoc] using blank
  rcases same with same | same | same | same <;> (subst same; decide)

theorem misses_of_blanks (text rest : List Char) (blank : Blanks text rest)
    (ends : Misses continuesNumber rest) : Misses continuesNumber text := by
  rcases blank with ⟨blanks, parts, all⟩
  subst parts
  cases blanks with
  | nil => exact ends
  | cons char blanks =>
    rw [List.cons_append, misses_cons_iff]
    exact (blank_ends_number char (all char List.mem_cons_self)).1

theorem value_head (text rest : List Char) (value : Value)
    (reads : Reads text (.value value) rest) :
    ∃ char after, text = char :: after ∧ isBlank char = false ∧ char ≠ ']' := by
  cases reads with
  | number _ digits _ decimal same number =>
    obtain ⟨char, after, parts, kind⟩ := number_head digits decimal number
    refine ⟨char, after ++ rest, by rw [same, parts, List.cons_append], ?_, ?_⟩
    · by_contra blank
      obtain ⟨ends, other⟩ := blank_ends_number char (by simpa using blank)
      rcases kind with kind | kind
      · exact other kind
      · simp [continuesNumber, isDigitOrPoint, kind] at ends
    · intro bracket
      subst bracket
      rcases kind with kind | kind <;> cases kind
  | null => exact ⟨_, _, rfl, by decide, by decide⟩
  | yes => exact ⟨_, _, rfl, by decide, by decide⟩
  | no => exact ⟨_, _, rfl, by decide, by decide⟩
  | text => exact ⟨_, _, rfl, by decide, by decide⟩
  | emptyArray => exact ⟨_, _, rfl, by decide, by decide⟩
  | array => exact ⟨_, _, rfl, by decide, by decide⟩
  | emptyObject => exact ⟨_, _, rfl, by decide, by decide⟩
  | object => exact ⟨_, _, rfl, by decide, by decide⟩

/-- Where a number stands nothing but a number can be read. -/
theorem value_of_number (text digits rest more : List Char) (decimal : Decimal) (other : Value)
    (same : text = digits ++ rest) (number : Number digits decimal)
    (second : Reads text (.value other) more) :
    ∃ digitsOther decimalOther, other = .number decimalOther ∧ text = digitsOther ++ more ∧
      Number digitsOther decimalOther := by
  cases second with
  | number _ digitsOther _ decimalOther sameOther numberOther =>
    exact ⟨digitsOther, decimalOther, rfl, sameOther, numberOther⟩
  | null => exact absurd (number_starts _ _ _ _ _ number same) (by decide)
  | yes => exact absurd (number_starts _ _ _ _ _ number same) (by decide)
  | no => exact absurd (number_starts _ _ _ _ _ number same) (by decide)
  | text => exact absurd (number_starts _ _ _ _ _ number same) (by decide)
  | emptyArray => exact absurd (number_starts _ _ _ _ _ number same) (by decide)
  | array => exact absurd (number_starts _ _ _ _ _ number same) (by decide)
  | emptyObject => exact absurd (number_starts _ _ _ _ _ number same) (by decide)
  | object => exact absurd (number_starts _ _ _ _ _ number same) (by decide)

theorem start_unique (text one other rest more : List Char) (value valueOther : Value)
    (first : Blanks text one) (second : Blanks text other)
    (reads : Reads one (.value value) rest) (readsOther : Reads other (.value valueOther) more) :
    one = other := by
  obtain ⟨char, after, parts, solid, _⟩ := value_head one rest value reads
  obtain ⟨charOther, afterOther, partsOther, solidOther, _⟩ :=
    value_head other more valueOther readsOther
  apply blanks_unique text one other first second
  · simpa [parts]
  · simpa [partsOther]

theorem items_ne_empty (text rest more : List Char) (items : List Value)
    (blanks : Blanks text (']' :: rest)) : ¬ Reads text (.items items) more := by
  have bracket : ∀ item finish, ¬ Reads text (.item item) finish := by
    intro item finish reads
    cases reads with
    | item _ _ _ _ opens readsValue =>
      obtain ⟨char, after, parts, solid, other⟩ := value_head _ _ _ readsValue
      subst parts
      exact other (mark_unique _ _ _ _ _ opens blanks solid (by decide)).1
  intro reads
  cases reads with
  | lastItem _ _ _ _ readsItem => exact bracket _ _ readsItem
  | moreItems _ _ _ _ _ _ readsItem => exact bracket _ _ readsItem

theorem members_ne_empty (text rest more : List Char) (members : List (String × Value))
    (blanks : Blanks text ('\x7d' :: rest)) : ¬ Reads text (.members members) more := by
  have bracket : ∀ member finish, ¬ Reads text (.member member) finish := by
    intro member finish reads
    cases reads with
    | member _ _ _ _ _ _ _ _ opens =>
      exact absurd (mark_unique _ _ _ _ _ opens blanks (by decide) (by decide)).1 (by decide)
  intro reads
  cases reads with
  | lastMember _ _ _ _ readsMember => exact bracket _ _ readsMember
  | moreMembers _ _ _ _ _ _ readsMember => exact bracket _ _ readsMember

/-- Whatever else a text is read as, it is the same phrase, with the same rest. Behind a value
something must stand that cannot go on with a number. -/
def Alone (text : List Char) : Phrase → List Char → Prop
  | .value value, rest => ∀ other more, Reads text (.value other) more →
    Misses continuesNumber rest → Misses continuesNumber more → value = other ∧ rest = more
  | .item item, rest => ∀ other more, Reads text (.item other) more →
    Misses continuesNumber rest → Misses continuesNumber more → item = other ∧ rest = more
  | .member member, rest => ∀ other more, Reads text (.member other) more →
    Misses continuesNumber rest → Misses continuesNumber more → member = other ∧ rest = more
  | .items items, rest => ∀ other more, Reads text (.items other) more →
    items = other ∧ rest = more
  | .members members, rest => ∀ other more, Reads text (.members other) more →
    members = other ∧ rest = more

def isBoundary (mark : Char) : Bool := mark = ',' || mark = ']' || mark = '\x7d'

theorem boundary_ends (mark : Char) (boundary : isBoundary mark = true) :
    continuesNumber mark = false ∧ isBlank mark = false := by
  have same : mark = ',' ∨ mark = ']' ∨ mark = '\x7d' := by
    simpa [isBoundary, or_assoc] using boundary
  rcases same with same | same | same <;> (subst same; decide)

/-- If a part can be read in one way only, then so can what stands before a mark. -/
theorem part_unique {Part : Type} (reads : Part → List Char → Prop) (part other : Part)
    (finish finishOther rest more : List Char) (mark markOther : Char)
    (alone : ∀ other more, reads other more → Misses continuesNumber finish →
      Misses continuesNumber more → part = other ∧ finish = more)
    (readsOther : reads other finishOther) (first : Blanks finish (mark :: rest))
    (second : Blanks finishOther (markOther :: more)) (boundary : isBoundary mark = true)
    (boundaryOther : isBoundary markOther = true) :
    part = other ∧ mark = markOther ∧ rest = more := by
  obtain ⟨ends, solid⟩ := boundary_ends mark boundary
  obtain ⟨endsOther, solidOther⟩ := boundary_ends markOther boundaryOther
  obtain ⟨same, finishes⟩ := alone other finishOther readsOther
    (misses_of_blanks finish _ first (by simpa))
    (misses_of_blanks finishOther _ second (by simpa))
  subst finishes
  exact ⟨same, mark_unique _ _ _ _ _ first second solid solidOther⟩

theorem reads_unique (text rest : List Char) (phrase : Phrase) (reads : Reads text phrase rest) :
    Alone text phrase rest := by
  -- The first character settles of which form the second reading is; only a number can begin with
  -- several.
  induction reads with
  | null rest =>
    intro other more second _ _
    cases second with
    | null => exact ⟨rfl, rfl⟩
    | number _ _ _ _ same number => exact absurd (number_starts _ _ _ _ _ number same) (by decide)
  | yes rest =>
    intro other more second _ _
    cases second with
    | yes => exact ⟨rfl, rfl⟩
    | number _ _ _ _ same number => exact absurd (number_starts _ _ _ _ _ number same) (by decide)
  | no rest =>
    intro other more second _ _
    cases second with
    | no => exact ⟨rfl, rfl⟩
    | number _ _ _ _ same number => exact absurd (number_starts _ _ _ _ _ number same) (by decide)
  | number text digits rest decimal same number =>
    intro other more second ends endsOther
    obtain ⟨digitsOther, decimalOther, rfl, sameOther, numberOther⟩ :=
      value_of_number _ _ _ _ decimal other same number second
    obtain ⟨decimals, rests⟩ := number_unique _ _ _ _ _ _ number numberOther ends endsOther
      (same.symm.trans sameOther)
    exact ⟨by rw [decimals], rests⟩
  | text body value rest chars =>
    intro other more second _ _
    cases second with
    | text _ _ _ charsOther =>
      obtain ⟨values, rests⟩ := chars_unique _ _ _ _ _ chars charsOther
      exact ⟨by rw [values], rests⟩
    | number _ _ _ _ same number => exact absurd (number_starts _ _ _ _ _ number same) (by decide)
  | emptyArray body rest blanks =>
    intro other more second _ _
    cases second with
    | emptyArray _ _ blanksOther =>
      exact ⟨rfl, (mark_unique _ _ _ _ _ blanks blanksOther (by decide) (by decide)).2⟩
    | array _ _ items readsItems => exact absurd readsItems (items_ne_empty _ _ _ _ blanks)
    | number _ _ _ _ same number => exact absurd (number_starts _ _ _ _ _ number same) (by decide)
  | array body rest items readsItems ih =>
    intro other more second _ _
    cases second with
    | emptyArray _ _ blanks => exact absurd readsItems (items_ne_empty _ _ _ _ blanks)
    | array _ _ itemsOther readsOther =>
      obtain ⟨same, rests⟩ := ih itemsOther more readsOther
      exact ⟨by rw [same], rests⟩
    | number _ _ _ _ same number => exact absurd (number_starts _ _ _ _ _ number same) (by decide)
  | emptyObject body rest blanks =>
    intro other more second _ _
    cases second with
    | emptyObject _ _ blanksOther =>
      exact ⟨rfl, (mark_unique _ _ _ _ _ blanks blanksOther (by decide) (by decide)).2⟩
    | object _ _ members readsMembers =>
      exact absurd readsMembers (members_ne_empty _ _ _ _ blanks)
    | number _ _ _ _ same number => exact absurd (number_starts _ _ _ _ _ number same) (by decide)
  | object body rest members readsMembers ih =>
    intro other more second _ _
    cases second with
    | emptyObject _ _ blanks => exact absurd readsMembers (members_ne_empty _ _ _ _ blanks)
    | object _ _ membersOther readsOther =>
      obtain ⟨same, rests⟩ := ih membersOther more readsOther
      exact ⟨by rw [same], rests⟩
    | number _ _ _ _ same number => exact absurd (number_starts _ _ _ _ _ number same) (by decide)
  | item text start rest item blanks readsValue ih =>
    intro other more second ends endsOther
    cases second with
    | item _ _ _ _ blanksOther readsOther =>
      have starts := start_unique _ _ _ _ _ _ _ blanks blanksOther readsValue readsOther
      subst starts
      exact ih other more readsOther ends endsOther
  | lastItem text finish rest item readsItem closes ih =>
    intro other more second
    cases second with
    | lastItem _ _ _ _ readsOther closesOther =>
      obtain ⟨same, _, rests⟩ := part_unique (fun part => Reads text (.item part)) _ _ _ _ _ _ _ _
        ih readsOther closes closesOther (by decide) (by decide)
      exact ⟨by rw [same], rests⟩
    | moreItems _ _ _ _ _ _ readsOther goesOn _ =>
      obtain ⟨_, marks, _⟩ := part_unique (fun part => Reads text (.item part)) _ _ _ _ _ _ _ _
        ih readsOther closes goesOn (by decide) (by decide)
      exact absurd marks (by decide)
  | moreItems text finish after rest item items readsItem goesOn readsItems ih later =>
    intro other more second
    cases second with
    | lastItem _ _ _ _ readsOther closes =>
      obtain ⟨_, marks, _⟩ := part_unique (fun part => Reads text (.item part)) _ _ _ _ _ _ _ _
        ih readsOther goesOn closes (by decide) (by decide)
      exact absurd marks (by decide)
    | moreItems _ _ _ _ _ _ readsOther goesOnOther readsItemsOther =>
      obtain ⟨same, _, afters⟩ := part_unique (fun part => Reads text (.item part)) _ _ _ _ _ _ _ _
        ih readsOther goesOn goesOnOther (by decide) (by decide)
      subst afters
      obtain ⟨others, rests⟩ := later _ _ readsItemsOther
      exact ⟨by rw [same, others], rests⟩
  | member text key name colon after start rest value blanks chars colons opens readsValue ih =>
    intro other more second ends endsOther
    cases second with
    | member _ _ _ _ _ _ _ _ blanksOther charsOther colonsOther opensOther readsOther =>
      obtain ⟨_, keys⟩ := mark_unique _ _ _ _ _ blanks blanksOther (by decide) (by decide)
      subst keys
      obtain ⟨names, rests⟩ := chars_unique _ _ _ _ _ chars charsOther
      subst names rests
      obtain ⟨_, afters⟩ := mark_unique _ _ _ _ _ colons colonsOther (by decide) (by decide)
      subst afters
      have starts := start_unique _ _ _ _ _ _ _ opens opensOther readsValue readsOther
      subst starts
      obtain ⟨values, rests⟩ := ih _ _ readsOther ends endsOther
      exact ⟨by rw [values], rests⟩
  | lastMember text finish rest member readsMember closes ih =>
    intro other more second
    cases second with
    | lastMember _ _ _ _ readsOther closesOther =>
      obtain ⟨same, _, rests⟩ := part_unique (fun part => Reads text (.member part)) _ _ _ _ _ _ _ _
        ih readsOther closes closesOther (by decide) (by decide)
      exact ⟨by rw [same], rests⟩
    | moreMembers _ _ _ _ _ _ readsOther goesOn _ =>
      obtain ⟨_, marks, _⟩ := part_unique (fun part => Reads text (.member part)) _ _ _ _ _ _ _ _
        ih readsOther closes goesOn (by decide) (by decide)
      exact absurd marks (by decide)
  | moreMembers text finish after rest member members readsMember goesOn readsMembers ih later =>
    intro other more second
    cases second with
    | lastMember _ _ _ _ readsOther closes =>
      obtain ⟨_, marks, _⟩ := part_unique (fun part => Reads text (.member part)) _ _ _ _ _ _ _ _
        ih readsOther goesOn closes (by decide) (by decide)
      exact absurd marks (by decide)
    | moreMembers _ _ _ _ _ _ readsOther goesOnOther readsMembersOther =>
      obtain ⟨same, _, afters⟩ := part_unique (fun part => Reads text (.member part)) _ _ _ _ _ _ _
        _ ih readsOther goesOn goesOnOther (by decide) (by decide)
      subst afters
      obtain ⟨others, rests⟩ := later _ _ readsMembersOther
      exact ⟨by rw [same, others], rests⟩

theorem denotes_unique (text : String) (value other : Value) (first : Denotes text value)
    (second : Denotes text other) : value = other := by
  rcases first with ⟨start, finish, opens, reads, closes⟩
  rcases second with ⟨startOther, finishOther, opensOther, readsOther, closesOther⟩
  have starts := start_unique _ _ _ _ _ _ _ opens opensOther reads readsOther
  subst starts
  exact (reads_unique _ _ _ reads other finishOther readsOther
    (misses_of_blanks finish [] closes (misses_nil _))
    (misses_of_blanks finishOther [] closesOther (misses_nil _))).1

end PatternLint.JsonGrammar
