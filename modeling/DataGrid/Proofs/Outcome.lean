import DataGrid.Error
import Mathlib.Data.List.Forall2

/-!
# Outcomes of steps in a row

Steps that may fail are written one after another, and the first failure ends
them.  These lemmas take such a row apart.
-/

namespace DataGrid

variable {ε α β γ : Type}

@[simp]
theorem ok_bind (value : α) (next : α → Except ε β) :
    (Except.ok value >>= next) = next value :=
  rfl

@[simp]
theorem error_bind (error : ε) (next : α → Except ε β) :
    (Except.error error >>= next) = .error error :=
  rfl

/-- Steps in a row succeed when the first does and the rest do with its
value. -/
theorem bind_eq_ok_iff (first : Except ε α) (next : α → Except ε β)
    (value : β) :
    first >>= next = .ok value ↔
      ∃ middle, first = .ok middle ∧ next middle = .ok value := by
  cases first <;> simp

/-- Steps in a row fail when the first does, or the rest do with its value. -/
theorem bind_eq_error_iff (first : Except ε α) (next : α → Except ε β)
    (error : ε) :
    first >>= next = .error error ↔
      first = .error error ∨
        ∃ value, first = .ok value ∧ next value = .error error := by
  cases first <;> simp

@[simp]
theorem pure_eq_ok (value : α) : (pure value : Except ε α) = .ok value :=
  rfl

@[simp]
theorem throw_eq_error (error : ε) :
    (throw error : Except ε α) = .error error :=
  rfl

theorem map_eq_ok_iff (result : Except ε α) (change : α → β) (value : β) :
    result.map change = .ok value ↔
      ∃ found, result = .ok found ∧ change found = value := by
  cases result <;> simp [Except.map]

/-- A step that succeeds on every item has its values in the items' order. -/
theorem forall₂_of_mapM_eq_ok {step : α → Except ε β} {items : List α}
    {values : List β} (succeeds : items.mapM step = .ok values) :
    List.Forall₂ (fun item value => step item = .ok value) items values := by
  induction items generalizing values with
  | nil =>
      rw [List.mapM_nil] at succeeds
      obtain rfl := Except.ok.inj succeeds
      exact .nil
  | cons item rest ih =>
      rw [List.mapM_cons] at succeeds
      obtain ⟨value, first, succeeds⟩ := (bind_eq_ok_iff _ _ _).mp succeeds
      obtain ⟨others, later, succeeds⟩ := (bind_eq_ok_iff _ _ _).mp succeeds
      obtain rfl := Except.ok.inj succeeds
      exact .cons first (ih later)

/-- Every value of a list belongs to an item, when items and values belong
together one by one. -/
theorem exists_mem_of_forall₂ {belongs : α → β → Prop} {items : List α}
    {values : List β} (paired : List.Forall₂ belongs items values) {value : β}
    (member : value ∈ values) : ∃ item ∈ items, belongs item value := by
  induction paired with
  | nil => simp at member
  | @cons item head _ _ first _ ih =>
      rcases List.mem_cons.mp member with rfl | later
      · exact ⟨item, List.mem_cons_self, first⟩
      · obtain ⟨other, among, others⟩ := ih later
        exact ⟨other, List.mem_cons_of_mem _ among, others⟩

/-- Every value of a step that succeeds on all items comes from one of them. -/
theorem exists_of_mapM_eq_ok {step : α → Except ε β} {items : List α}
    {values : List β} (succeeds : items.mapM step = .ok values) {value : β}
    (member : value ∈ values) : ∃ item ∈ items, step item = .ok value :=
  exists_mem_of_forall₂ (forall₂_of_mapM_eq_ok succeeds) member

theorem forall_of_mapM_eq_ok {step : α → Except ε β} {items : List α}
    {values : List β} {property : β → Prop}
    (succeeds : items.mapM step = .ok values)
    (each : ∀ item value, step item = .ok value → property value) :
    ∀ value ∈ values, property value := by
  intro value member
  obtain ⟨item, -, step_eq⟩ := exists_of_mapM_eq_ok succeeds member
  exact each item value step_eq

/-- An item of a list fails with an error, and no item in front of it fails. -/
def FirstFails (fails : α → ε → Prop) (items : List α) (error : ε) : Prop :=
  ∃ before item after, items = before ++ item :: after ∧
    (∀ earlier ∈ before, ∀ other, ¬ fails earlier other) ∧ fails item error

theorem not_firstFails_nil (fails : α → ε → Prop) (error : ε) :
    ¬ FirstFails fails [] error := by
  rintro ⟨before, item, after, split, -⟩
  simp at split

theorem firstFails_cons_iff (fails : α → ε → Prop) (item : α)
    (rest : List α) (error : ε) :
    FirstFails fails (item :: rest) error ↔
      fails item error ∨
        (∀ other, ¬ fails item other) ∧ FirstFails fails rest error := by
  constructor
  · rintro ⟨before, failing, after, split, sound, fails_here⟩
    cases before with
    | nil =>
        obtain ⟨rfl, rfl⟩ := List.cons.inj split
        exact .inl fails_here
    | cons first before =>
        obtain ⟨rfl, rfl⟩ := List.cons.inj split
        obtain ⟨here, later⟩ := List.forall_mem_cons.mp sound
        exact .inr ⟨here, before, failing, after, rfl, later, fails_here⟩
  · rintro (fails_here | ⟨here, before, failing, after, rfl, sound, fails_here⟩)
    · exact ⟨[], item, rest, rfl, by simp, fails_here⟩
    · exact ⟨item :: before, failing, after, rfl,
        List.forall_mem_cons.mpr ⟨here, sound⟩, fails_here⟩

/-- Some item is the first to fail exactly when one fails at all. -/
theorem exists_firstFails_iff (fails : α → ε → Prop) (items : List α) :
    (∃ error, FirstFails fails items error) ↔
      ∃ item ∈ items, ∃ error, fails item error := by
  induction items with
  | nil => simp [not_firstFails_nil]
  | cons item rest ih =>
      simp only [firstFails_cons_iff, exists_or, List.exists_mem_cons_iff]
      by_cases here : ∃ error, fails item error
      · simp [here]
      · have sound : ∀ other, ¬ fails item other := not_exists.mp here
        simp [sound, ih]

/-- Two outcomes are mapped to the same one when they fail alike, or succeed
with values that are mapped to the same value. -/
theorem map_eq_map_iff (change : α → β) (first second : Except ε α) :
    first.map change = second.map change ↔
      (∃ error, first = .error error ∧ second = .error error) ∨
        ∃ value other, first = .ok value ∧ second = .ok other ∧
          change value = change other := by
  cases first with
  | error error =>
      cases second with
      | error otherError => simp [Except.map, eq_comm]
      | ok other => simp [Except.map]
  | ok value =>
      cases second with
      | error otherError => simp [Except.map]
      | ok other => simp [Except.map]

end DataGrid
