import Mathlib.Data.List.Forall2

/-!
Attempts that can fail: one after another, and over the items of a list. A list passes if every item
does; otherwise the first item that fails is the fault of the whole list.
-/

namespace PatternLint

variable {Item Fault Value Result : Type}

theorem bind_eq_ok_iff (first : Except Fault Value) (next : Value → Except Fault Result)
    (result : Result) :
    (first >>= next) = .ok result ↔ ∃ value, first = .ok value ∧ next value = .ok result := by
  cases first with
  | error fault => exact ⟨nofun, nofun⟩
  | ok value =>
    constructor
    · intro passed
      exact ⟨value, rfl, passed⟩
    · intro holds
      rcases holds with ⟨other, same, passed⟩
      injection same with same
      exact same ▸ passed

theorem bind_eq_error_iff (first : Except Fault Value) (next : Value → Except Fault Result)
    (fault : Fault) :
    (first >>= next) = .error fault ↔
      first = .error fault ∨ ∃ value, first = .ok value ∧ next value = .error fault := by
  cases first with
  | error cause =>
    constructor
    · intro failed
      injection failed with same
      exact .inl (same ▸ rfl)
    · intro holds
      rcases holds with failed | ⟨_, passed, _⟩
      · injection failed with same
        exact same ▸ rfl
      · cases passed
  | ok value =>
    constructor
    · intro failed
      exact .inr ⟨value, rfl, failed⟩
    · intro holds
      rcases holds with failed | ⟨other, same, failed⟩
      · cases failed
      · injection same with same
        exact same ▸ failed

theorem exists_eq_ok_iff (tried : Except Fault Value) :
    (∃ value, tried = .ok value) ↔ ∀ fault, tried ≠ .error fault := by
  cases tried <;> simp

theorem bind_pure_eq_error_iff (first : Except Fault Value) (make : Value → Result)
    (fault : Fault) :
    (first >>= fun value => pure (make value)) = .error fault ↔ first = .error fault := by
  rw [bind_eq_error_iff]
  exact or_iff_left nofun

variable (attempt : Item → Except Fault Value)

def Passes (items : List Item) : Prop := ∀ item ∈ items, ∃ value, attempt item = .ok value

/-- An item fails, and all that stands before it passes. -/
def FirstFault (items : List Item) (item : Item) (fault : Fault) : Prop :=
  ∃ before after, items = before ++ item :: after ∧ Passes attempt before ∧
    attempt item = .error fault

theorem mapM_cons_of_ok (item : Item) (rest : List Item) (value : Value)
    (passed : attempt item = .ok value) :
    (item :: rest).mapM attempt = (rest.mapM attempt).map (value :: ·) := by
  rw [List.mapM_cons, passed]
  cases rest.mapM attempt <;> rfl

theorem mapM_cons_of_error (item : Item) (rest : List Item) (fault : Fault)
    (failed : attempt item = .error fault) :
    (item :: rest).mapM attempt = .error fault := by
  rw [List.mapM_cons, failed]
  rfl

theorem mapM_eq_ok_iff (items : List Item) (values : List Value) :
    items.mapM attempt = .ok values ↔
      List.Forall₂ (fun item value => attempt item = .ok value) items values := by
  induction items generalizing values with
  | nil =>
    rw [List.forall₂_nil_left_iff]
    exact ⟨fun same => (Except.ok.inj same).symm, fun empty => empty ▸ rfl⟩
  | cons item rest ih =>
    rw [List.forall₂_cons_left_iff]
    constructor
    · intro passed
      cases first : attempt item with
      | error fault =>
        rw [mapM_cons_of_error attempt item rest fault first] at passed
        cases passed
      | ok value =>
        rw [mapM_cons_of_ok attempt item rest value first] at passed
        cases later : rest.mapM attempt with
        | error fault =>
          rw [later] at passed
          cases passed
        | ok others =>
          rw [later] at passed
          exact ⟨value, others, rfl, (ih others).mp later, (Except.ok.inj passed).symm⟩
    · intro holds
      rcases holds with ⟨value, others, first, later, same⟩
      rw [mapM_cons_of_ok attempt item rest value first, (ih others).mpr later, same]
      rfl

theorem mapM_eq_some_iff (read : Item → Option Value) (items : List Item) (values : List Value) :
    items.mapM read = some values ↔
      List.Forall₂ (fun item value => read item = some value) items values := by
  induction items generalizing values with
  | nil =>
    rw [List.forall₂_nil_left_iff, List.mapM_nil]
    exact ⟨fun same => (Option.some.inj same).symm, fun empty => empty ▸ rfl⟩
  | cons item rest ih =>
    rw [List.forall₂_cons_left_iff, List.mapM_cons]
    simp only [Option.bind_eq_bind, Option.bind_eq_some_iff, ih, Option.pure_def,
      Option.some.injEq]
    constructor
    · rintro ⟨value, first, others, later, rfl⟩
      exact ⟨value, others, first, later, rfl⟩
    · rintro ⟨value, others, first, later, rfl⟩
      exact ⟨value, first, others, later, rfl⟩

/-- One value for each item, so to ask for one of the values is to ask for one of the items. -/
theorem exists_value_iff {items : List Item} {values : List Value}
    (made : List.Forall₂ (fun item value => attempt item = .ok value) items values)
    (asked : Value → Prop) :
    (∃ value ∈ values, asked value) ↔
      ∃ item ∈ items, ∃ value, attempt item = .ok value ∧ asked value := by
  induction made with
  | nil => simp
  | cons first _ ih =>
    simp only [List.exists_mem_cons_iff, ih, first, Except.ok.injEq, exists_eq_left']

theorem exists_item_of_mem {items : List Item} {values : List Value}
    (made : List.Forall₂ (fun item value => attempt item = .ok value) items values) (value : Value)
    (member : value ∈ values) : ∃ item ∈ items, attempt item = .ok value := by
  obtain ⟨item, given, _, passed, rfl⟩ :=
    (exists_value_iff attempt made (· = value)).mp ⟨value, member, rfl⟩
  exact ⟨item, given, passed⟩

theorem exists_item_at {items : List Item} {values : List Value}
    (made : List.Forall₂ (fun item value => attempt item = .ok value) items values) (index : Nat)
    (value : Value) (found : values[index]? = some value) :
    ∃ item, items[index]? = some item ∧ attempt item = .ok value := by
  induction made generalizing index with
  | nil => cases found
  | cons passed _ ih =>
    cases index with
    | zero => exact ⟨_, rfl, (Option.some.inj found) ▸ passed⟩
    | succ index => exact ih index found

theorem mapM_eq_error_iff (items : List Item) (fault : Fault) :
    items.mapM attempt = .error fault ↔ ∃ item, FirstFault attempt items item fault := by
  constructor
  · intro failed
    induction items with
    | nil => cases failed
    | cons head rest ih =>
      cases first : attempt head with
      | error cause =>
        rw [mapM_cons_of_error attempt head rest cause first] at failed
        injection failed with same
        exact ⟨head, [], rest, rfl, by simp [Passes], same ▸ first⟩
      | ok value =>
        rw [mapM_cons_of_ok attempt head rest value first] at failed
        have later : rest.mapM attempt = .error fault := by
          cases parts : rest.mapM attempt with
          | error cause =>
            rw [parts] at failed
            injection failed with same
            rw [same]
          | ok values =>
            rw [parts] at failed
            cases failed
        obtain ⟨item, before, after, parts, passed, fails⟩ := ih later
        refine ⟨item, head :: before, after, by rw [parts]; rfl, ?_, fails⟩
        exact List.forall_mem_cons.mpr ⟨⟨value, first⟩, passed⟩
  · intro holds
    rcases holds with ⟨item, before, after, parts, passed, fails⟩
    subst parts
    induction before with
    | nil => exact mapM_cons_of_error attempt item after fault fails
    | cons head before ih =>
      obtain ⟨⟨value, first⟩, others⟩ := List.forall_mem_cons.mp passed
      rw [List.cons_append, mapM_cons_of_ok attempt head _ value first, ih others]
      rfl

theorem passes_iff_exists_mapM (items : List Item) :
    Passes attempt items ↔ ∃ values, items.mapM attempt = .ok values := by
  constructor
  · intro passes
    cases tried : items.mapM attempt with
    | ok values => exact ⟨values, rfl⟩
    | error fault =>
      obtain ⟨item, before, after, parts, _, fails⟩ :=
        (mapM_eq_error_iff attempt items fault).mp tried
      obtain ⟨value, passed⟩ := passes item (by simp [parts])
      rw [fails] at passed
      cases passed
  · intro holds
    rcases holds with ⟨values, passed⟩
    have pairs := (mapM_eq_ok_iff attempt items values).mp passed
    clear passed
    induction pairs with
    | nil => exact List.forall_mem_nil _
    | cons first _ ih => exact List.forall_mem_cons.mpr ⟨⟨_, first⟩, ih⟩

theorem passes_iff_forall_mapM_ne (items : List Item) :
    Passes attempt items ↔ ∀ fault, items.mapM attempt ≠ .error fault := by
  rw [passes_iff_exists_mapM, exists_eq_ok_iff]

end PatternLint
