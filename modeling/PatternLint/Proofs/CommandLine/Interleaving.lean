import Mathlib.Data.List.Perm.Basic
import PatternLint.CommandLine.Arguments
import PatternLint.Proofs.Text.Number
import PatternLint.Proofs.Text.Run

namespace PatternLint.CommandLine

inductive Said where
  | value (flag : ValueFlag) (text : String)
  | defaultExcludes (apply : Bool)
  | verbose
deriving DecidableEq

namespace ValueFlag

def name : ValueFlag → String
  | root => "root"
  | config => "config"
  | includeGlob => "include"
  | excludeGlob => "exclude"
  | rule => "rule"
  | preset => "preset"
  | output => "output"
  | threads => "threads"

def isRepeatable : ValueFlag → Bool
  | includeGlob | excludeGlob | rule => true
  | _ => false

theorem lookup_name (flag : ValueFlag) : valueFlags.lookup flag.name = some flag := by
  cases flag <;> rfl

theorem equals_notMem_name (flag : ValueFlag) : '=' ∉ flag.name.toList := by
  cases flag <;> decide

end ValueFlag

namespace Said

def argument : Said → String
  | value flag text => "--" ++ flag.name ++ "=" ++ text
  | defaultExcludes true => "--default-excludes"
  | defaultExcludes false => "--no-default-excludes"
  | verbose => "-v"

def valueOf? (flag : ValueFlag) : Said → Option String
  | value other text => if other = flag then some text else none
  | _ => none

end Said

def valuesOf (flag : ValueFlag) (items : List Said) : List String :=
  items.filterMap (Said.valueOf? flag)

def valuesIn (overrides : Overrides) : ValueFlag → List String
  | .root => overrides.root.toList
  | .config => overrides.config.toList
  | .includeGlob => overrides.includes
  | .excludeGlob => overrides.excludes
  | .rule => overrides.rules
  | .preset => overrides.preset.toList
  | .output => overrides.output.toList
  | .threads => (overrides.threads.map toString).toList

def allSaid (overrides : Overrides) (count : Nat) : List Said :=
  (valueFlags.flatMap fun (_, flag) => (valuesIn overrides flag).map (Said.value flag)) ++
    overrides.defaultExcludes.toList.map Said.defaultExcludes ++ List.replicate count .verbose

/-- Everything is said, in an order that keeps that of the values of each flag. -/
structure Interleaved (overrides : Overrides) (count : Nat) (items : List Said) : Prop where
  complete : items.Perm (allSaid overrides count)
  ordered : ∀ flag, valuesOf flag items = valuesIn overrides flag

structure Filled (overrides : Overrides) : Prop where
  values : ∀ flag, ∀ value ∈ valuesIn overrides flag, value ≠ ""
  threads : ∀ number ∈ overrides.threads, number < Config.countLimit

def gathered (items : List Said) : Given where
  overrides := {
    root := (valuesOf .root items).head?
    config := (valuesOf .config items).head?
    includes := valuesOf .includeGlob items
    excludes := valuesOf .excludeGlob items
    rules := valuesOf .rule items
    preset := (valuesOf .preset items).head?
    output := (valuesOf .output items).head?
    threads := (valuesOf .threads items).head?.bind fun text => threads? text.toList }
  defaultExcludes := items.contains (.defaultExcludes true)
  noDefaultExcludes := items.contains (.defaultExcludes false)
  verbosity := min (items.count .verbose) verbosityLimit

/-- What may be said behind other things: no second value for a flag that takes one, and no switch
but `-v` twice. -/
def MayFollow (before : List Said) : Said → Prop
  | .value flag text =>
    (flag.isRepeatable = false → valuesOf flag before = []) ∧ text ≠ "" ∧
      (flag = .threads → (threads? text.toList).isSome)
  | .defaultExcludes apply => .defaultExcludes apply ∉ before
  | .verbose => True

section Steps

theorem valuesOf_concat (flag : ValueFlag) (before : List Said) (item : Said) :
    valuesOf flag (before ++ [item]) = valuesOf flag before ++ (item.valueOf? flag).toList := by
  rw [valuesOf, List.filterMap_append]
  cases given : item.valueOf? flag with
  | none => rw [List.filterMap_cons_none given]; rfl
  | some text => rw [List.filterMap_cons_some given]; rfl

theorem once_none {Value : Type} (value : Value) : once none value = .ok (some value) :=
  rfl

theorem path_none (value : String) (filled : value ≠ "") : path none value = .ok (some value) := by
  have other : some value ≠ some "" := fun same => filled (Option.some.inj same)
  simp only [path, once_none, bind, Except.bind, if_neg other]
  rfl

variable (before : List Said)

theorem put_gathered (flag : ValueFlag) (text : String)
    (may : MayFollow before (.value flag text)) :
    (gathered before).put flag text = .ok (gathered (before ++ [.value flag text])) := by
  obtain ⟨first, filled, number⟩ := may
  cases flag with
  | root =>
    have none := first rfl
    simp [Given.put, gathered, valuesOf_concat, Said.valueOf?, none, path_none text filled, bind,
      Except.bind, pure, Except.pure]
  | config =>
    have none := first rfl
    simp [Given.put, gathered, valuesOf_concat, Said.valueOf?, none, path_none text filled, bind,
      Except.bind, pure, Except.pure]
  | includeGlob | excludeGlob | rule =>
    simp [Given.put, gathered, valuesOf_concat, Said.valueOf?, bind, Except.bind, pure, Except.pure]
  | preset | output =>
    have none := first rfl
    simp [Given.put, gathered, valuesOf_concat, Said.valueOf?, none, once_none, bind, Except.bind,
      pure, Except.pure]
  | threads =>
    have none := first rfl
    obtain ⟨count, read⟩ := Option.isSome_iff_exists.mp (number rfl)
    simp [Given.put, gathered, valuesOf_concat, Said.valueOf?, none, read, bind, Except.bind, pure,
      Except.pure]

theorem settle_gathered : (gathered before).settle = .ok (gathered before) :=
  rfl

theorem gathered_defaultExcludes :
    gathered (before ++ [.defaultExcludes true]) =
      { gathered before with defaultExcludes := true } := by
  simp [gathered, valuesOf_concat, Said.valueOf?]

theorem gathered_noDefaultExcludes :
    gathered (before ++ [.defaultExcludes false]) =
      { gathered before with noDefaultExcludes := true } := by
  simp [gathered, valuesOf_concat, Said.valueOf?]

theorem gathered_verbose :
    gathered (before ++ [.verbose]) =
      { gathered before with
        verbosity := min ((gathered before).verbosity + 1) verbosityLimit } := by
  simp [gathered, valuesOf_concat, Said.valueOf?]
  omega

theorem turn_defaultExcludes (first : .defaultExcludes true ∉ before) :
    (gathered before).turn .defaultExcludes =
      .ok (gathered (before ++ [.defaultExcludes true])) := by
  have off : (gathered before).defaultExcludes = false := by
    simpa [gathered] using first
  simp [Given.turn, settle_gathered, gathered_defaultExcludes, off, bind, Except.bind, pure,
    Except.pure]

theorem turn_noDefaultExcludes (first : .defaultExcludes false ∉ before) :
    (gathered before).turn .noDefaultExcludes =
      .ok (gathered (before ++ [.defaultExcludes false])) := by
  have off : (gathered before).noDefaultExcludes = false := by
    simpa [gathered] using first
  simp [Given.turn, settle_gathered, gathered_noDefaultExcludes, off, bind, Except.bind, pure,
    Except.pure]

theorem turn_verbose :
    (gathered before).turn .verbose = .ok (gathered (before ++ [.verbose])) := by
  rw [gathered_verbose]
  rfl

theorem takeLong_value (flag : ValueFlag) (text : List Char) :
    (gathered before).takeLong (flag.name.toList ++ '=' :: text) =
      (gathered before).put flag (String.ofList text) := by
  have inside : ∀ char ∈ flag.name.toList, decide (char ≠ '=') = true := by
    intro char member
    exact decide_eq_true (ne_of_mem_of_not_mem member flag.equals_notMem_name)
  have stop : ∀ char ∈ ('=' :: text).head?, decide (char ≠ '=') = false := by
    rintro _ ⟨⟩
    rfl
  have name := Text.takeWhile_run _ _ _ inside stop
  have value := Text.dropWhile_run _ _ _ inside stop
  simp only [Given.takeLong, name, value, String.ofList_toList, ValueFlag.lookup_name,
    settle_gathered]
  rfl

theorem take_argument (item : Said) (may : MayFollow before item) :
    (gathered before).take item.argument = .ok (gathered (before ++ [item])) := by
  cases item with
  | value flag text =>
    have written : (Said.value flag text).argument.toList =
        '-' :: '-' :: (flag.name.toList ++ '=' :: text.toList) := by
      simp [Said.argument]
    have long := takeLong_value before flag text.toList
    rw [String.ofList_toList] at long
    simp only [Given.take, written, long, put_gathered before flag text may]
  | defaultExcludes apply =>
    cases apply with
    | true => exact turn_defaultExcludes before may
    | false => exact turn_noDefaultExcludes before may
  | verbose =>
    have letter : letters.lookup 'v' = some Switch.verbose := rfl
    show (gathered before).takeShort ['v'] = _
    simp only [Given.takeShort, letter, turn_verbose, bind, Except.bind]

theorem argument_ne_dashes (item : Said) : item.argument ≠ "--" := by
  intro same
  have chars := congrArg String.toList same
  cases item with
  | value flag text => simp [Said.argument] at chars
  | defaultExcludes apply => cases apply <;> exact absurd chars (by decide)
  | verbose => exact absurd chars (by decide)

/-- The arguments are taken one by one; what stands before each of them is what it follows. -/
theorem takeAll_gathered (items : List Said)
    (may : ∀ earlier item later, items = earlier ++ item :: later →
      MayFollow (before ++ earlier) item) :
    (gathered before).takeAll (items.map Said.argument) = .ok (gathered (before ++ items)) := by
  induction items generalizing before with
  | nil => rw [List.append_nil]; rfl
  | cons item rest ih =>
    have first : MayFollow before item := by
      have here := may [] item rest rfl
      rwa [List.append_nil] at here
    have further := ih (before ++ [item]) fun earlier other later parts => by
      have there := may (item :: earlier) other later (by rw [parts, List.cons_append])
      rwa [List.append_cons] at there
    rw [List.map_cons, Given.takeAll, if_neg (argument_ne_dashes item),
      take_argument before item first]
    rw [List.append_assoc, List.singleton_append] at further
    exact further

end Steps

section Contents

variable (overrides : Overrides) (count : Nat)

theorem threads?_toString (number : Nat) (small : number < Config.countLimit) :
    threads? (toString number).toList = some number := by
  have digits : (toString number).toList = Nat.toDigits 10 number := by
    rw [Nat.toString_eq_ofList_toDigits, String.toList_ofList]
  have unsigned : ∀ rest, Nat.toDigits 10 number ≠ '+' :: rest := by
    intro rest signed
    have member : '+' ∈ Nat.toDigits 10 number := signed ▸ List.mem_cons_self
    exact absurd (Nat.isDigit_of_mem_toDigits (by decide) (by decide) member) (by decide)
  have read := Text.natural?_toDigits 10 (by decide) (by decide) number
  have plain : threads? (Nat.toDigits 10 number) =
      (Text.natural? 10 (Nat.toDigits 10 number)).filter (· < Config.countLimit) := by
    rw [threads?]
    exact unsigned
  rw [digits, plain, Text.natural?_toDigits 10 (by decide) (by decide), Option.filter_some_pos]
  exact decide_eq_true small

theorem mem_allSaid_defaultExcludes (apply : Bool) :
    .defaultExcludes apply ∈ allSaid overrides count ↔ overrides.defaultExcludes = some apply := by
  simp [allSaid]

theorem count_defaultExcludes_allSaid (apply : Bool) :
    (allSaid overrides count).count (.defaultExcludes apply) ≤ 1 := by
  have others : .defaultExcludes apply ∉
      valueFlags.flatMap fun (_, flag) => (valuesIn overrides flag).map (Said.value flag) := by
    simp
  have verbose : (.defaultExcludes apply : Said) ∉ List.replicate count .verbose := by
    simp
  rw [allSaid, List.count_append, List.count_append, List.count_eq_zero_of_not_mem others,
    List.count_eq_zero_of_not_mem verbose, Nat.zero_add, Nat.add_zero]
  apply Nat.le_trans List.count_le_length
  rw [List.length_map]
  exact Option.length_toList_le

theorem count_verbose_allSaid : (allSaid overrides count).count .verbose = count := by
  have others : .verbose ∉
      (valueFlags.flatMap fun (_, flag) => (valuesIn overrides flag).map (Said.value flag)) ++
        overrides.defaultExcludes.toList.map Said.defaultExcludes := by
    simp
  rw [allSaid, List.count_append, List.count_eq_zero_of_not_mem others, List.count_replicate_self,
    Nat.zero_add]

theorem length_valuesIn (flag : ValueFlag) (single : flag.isRepeatable = false) :
    (valuesIn overrides flag).length ≤ 1 := by
  cases flag with
  | includeGlob | excludeGlob | rule => cases single
  | root | config | preset | output | threads =>
    exact Option.length_toList_le

variable {overrides count}

theorem mayFollow_of_interleaved (filled : Filled overrides) (items : List Said)
    (mixed : Interleaved overrides count items) (earlier : List Said) (item : Said)
    (later : List Said) (parts : items = earlier ++ item :: later) : MayFollow earlier item := by
  cases item with
  | value flag text =>
    have values : valuesIn overrides flag =
        valuesOf flag earlier ++ text :: valuesOf flag later := by
      rw [← mixed.ordered flag, parts, List.append_cons, valuesOf, List.filterMap_append,
        ← valuesOf, ← valuesOf, valuesOf_concat]
      simp [Said.valueOf?]
    have member : text ∈ valuesIn overrides flag := by
      simp [values]
    refine ⟨fun single => ?_, filled.values flag text member, ?_⟩
    · have short := length_valuesIn overrides flag single
      rw [values] at short
      simp at short
      exact List.eq_nil_of_length_eq_zero (by omega)
    · rintro rfl
      obtain ⟨number, given, rfl⟩ : ∃ number, overrides.threads = some number ∧
          toString number = text := by
        simpa [valuesIn] using member
      rw [threads?_toString number (filled.threads number given)]
      rfl
  | defaultExcludes apply =>
    intro twice
    have most := count_defaultExcludes_allSaid overrides count apply
    rw [← mixed.complete.count_eq, parts, List.count_append, List.count_cons_self] at most
    have some := List.one_le_count_iff.mpr twice
    omega
  | verbose => trivial

theorem gathered_of_interleaved (filled : Filled overrides) (items : List Said)
    (mixed : Interleaved overrides count items) :
    gathered items = {
      overrides := { overrides with defaultExcludes := none }
      defaultExcludes := overrides.defaultExcludes = some true
      noDefaultExcludes := overrides.defaultExcludes = some false
      verbosity := min count verbosityLimit } := by
  have switch (apply : Bool) : items.contains (.defaultExcludes apply) =
      decide (overrides.defaultExcludes = some apply) := by
    rw [Bool.eq_iff_iff, List.contains_iff_mem, decide_eq_true_iff, mixed.complete.mem_iff,
      mem_allSaid_defaultExcludes]
  have times : items.count .verbose = count := by
    rw [mixed.complete.count_eq, count_verbose_allSaid]
  have threads : ((valuesIn overrides .threads).head?.bind fun text => threads? text.toList) =
      overrides.threads := by
    cases given : overrides.threads with
    | none => simp [valuesIn, given]
    | some number =>
      have read := threads?_toString number (filled.threads number given)
      simpa [valuesIn, given] using read
  simp only [gathered, mixed.ordered, switch, times, threads]
  simp [valuesIn]

theorem readArguments_interleaved (filled : Filled overrides) (items : List Said)
    (mixed : Interleaved overrides count items) :
    readArguments (items.map Said.argument) = .ok ⟨overrides, min count 255⟩ := by
  have taken : Given.takeAll {} (items.map Said.argument) = .ok (gathered items) :=
    takeAll_gathered [] items fun earlier item later parts =>
      mayFollow_of_interleaved filled items mixed earlier item later parts
  rw [readArguments, taken, gathered_of_interleaved filled items mixed]
  obtain ⟨root, config, includes, excludes, rules, preset, defaultExcludes, output, threads⟩ :=
    overrides
  -- the two switches fold into one value with three cases
  match defaultExcludes with
  | none => rfl
  | some true => rfl
  | some false => rfl

def mixedOverrides : Overrides :=
  { root := " ", includes := ["-v"], rules := ["a=b=c", "--, x"], defaultExcludes := false
    threads := some 18446744073709551615 }

def mixedItems : List Said :=
  [.verbose, .value .rule "a=b=c", .value .includeGlob "-v", .defaultExcludes false,
    .value .rule "--, x", .value .threads "18446744073709551615", .value .root " ", .verbose]

theorem filled_mixedOverrides : Filled mixedOverrides where
  values flag := by
    cases flag <;> simp [valuesIn, mixedOverrides]
  threads := by
    simp [mixedOverrides, Config.countLimit]

theorem interleaved_mixedItems : Interleaved mixedOverrides 2 mixedItems where
  complete := by decide +kernel
  ordered flag := by
    cases flag <;> rfl

/-- Values hold equals signs and blanks or begin with dashes, and `-v` stands before and behind
them. -/
theorem arguments_of_mixedItems :
    Filled mixedOverrides ∧ Interleaved mixedOverrides 2 mixedItems ∧
      readArguments ["-v", "--rule=a=b=c", "--include=-v", "--no-default-excludes",
          "--rule=--, x", "--threads=18446744073709551615", "--root= ", "-v"] =
        .ok ⟨mixedOverrides, 2⟩ :=
  ⟨filled_mixedOverrides, interleaved_mixedItems,
    readArguments_interleaved filled_mixedOverrides mixedItems interleaved_mixedItems⟩

end Contents

end PatternLint.CommandLine
