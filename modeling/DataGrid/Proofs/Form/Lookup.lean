import DataGrid.Form.Store
import DataGrid.Proofs.Engine.Run
import DataGrid.Proofs.Source.Lookup

/-!
# Looking rows up

A row is looked up through the table's own query, with one question, under the
conditions of an identity.  The question tells the conditions.
-/

namespace DataGrid

open Sql

namespace RowIdentity

/-- An identity names its columns by identifiers, and names at least one. -/
theorem conditions_spec {identity : RowIdentity}
    {conditions : List (String × Value)}
    (named : identity.conditions = .ok conditions) :
    conditions ≠ [] ∧
      ∀ condition ∈ conditions, Text.isIdentifier condition.1 = true := by
  cases identity with
  | single id =>
      obtain rfl := Except.ok.inj named
      refine ⟨by simp, ?_⟩
      simp only [List.forall_mem_singleton]
      decide
  | fields pairs =>
      cases pairs with
      | nil => simp [RowIdentity.conditions] at named
      | cons pair rest =>
          constructor
          · intro none
            simpa [none] using (forall₂_of_mapM_eq_ok named).length_eq
          · refine forall_of_mapM_eq_ok named fun pair condition read => ?_
            split at read
            · rename_i identifier
              obtain rfl := Except.ok.inj read
              exact identifier
            · simp at read

/-- An identity restricts the id of its row to a value. -/
def Names (identity : RowIdentity) (value : Value) : Prop :=
  ∃ conditions, identity.conditions = .ok conditions ∧
    ("id", value) ∈ conditions

theorem names_single_iff (id : String) (value : Value) :
    (single id).Names value ↔ value = .ofRowId id := by
  simp [Names, RowIdentity.conditions]

end RowIdentity

namespace Table

/-- The statement that looks up the row with an identity. -/
def lookup (table : Table) (identity : RowIdentity) :
    Except Error Statement := do
  table.source.rowStatement (← identity.conditions)

/-- Identities with one and the same lookup name the same values. -/
theorem names_iff_of_lookup_eq {table : Table} {identity other : RowIdentity}
    {statement : Statement} (stated : table.lookup identity = .ok statement)
    (otherStated : table.lookup other = .ok statement) (value : Value) :
    identity.Names value ↔ other.Names value := by
  obtain ⟨conditions, named, stated⟩ := (bind_eq_ok_iff _ _ _).mp stated
  obtain ⟨others, otherNamed, otherStated⟩ :=
    (bind_eq_ok_iff _ _ _).mp otherStated
  obtain ⟨given, identifiers⟩ := RowIdentity.conditions_spec named
  obtain ⟨otherGiven, otherIdentifiers⟩ :=
    RowIdentity.conditions_spec otherNamed
  obtain rfl := Source.rowStatement_injective given otherGiven identifiers
    otherIdentifiers stated otherStated
  simp [RowIdentity.Names, named, otherNamed]

end Table

/-- The event is a lookup that found a row: the one that the engine returned
last. -/
def Event.Finds (table : Table) (identity : RowIdentity) (row : Row)
    (event : Event) : Prop :=
  ∃ statement rows, table.lookup identity = .ok statement ∧
    event = ⟨.fetch statement 0 (some 1), .ok rows⟩ ∧
    rows.getLast? = some row

/-- The event is a lookup under a condition on the id that found a row. -/
def Event.FindsRow (table : Table) (value : Value) (event : Event) : Prop :=
  ∃ identity row, identity.Names value ∧ event.Finds table identity row

/-- A lookup looks for the value that its identity names. -/
theorem Event.Finds.findsRow_iff {table : Table} {identity : RowIdentity}
    {row : Row} {event : Event} (finds : event.Finds table identity row)
    (value : Value) :
    event.FindsRow table value ↔ identity.Names value := by
  constructor
  · rintro ⟨other, otherRow, names, otherStatement, otherRows, otherStated,
      other_eq, -⟩
    obtain ⟨statement, rows, stated, rfl, -⟩ := finds
    obtain rfl : statement = otherStatement := by
      simpa using (Event.mk.inj other_eq).1
    exact (Table.names_iff_of_lookup_eq otherStated stated value).mp names
  · intro names
    exact ⟨identity, row, names, finds⟩

namespace Table

open Program

theorem runs_fetchRow_iff (table : Table) (identity : RowIdentity)
    (events : List Event) (outcome : Except Error (Option Row)) :
    Runs (table.fetchRow identity) events outcome ↔
      (∃ error, table.lookup identity = .error error ∧ events = [] ∧
        outcome = .error error) ∨
      ∃ statement, table.lookup identity = .ok statement ∧
        ∃ answer, events = [⟨.fetch statement 0 (some 1), answer⟩] ∧
          outcome = (needed answer).map List.getLast? := by
  have stated : table.fetchRow identity =
      liftM (table.lookup identity) >>= fun statement =>
        perform (.fetch statement 0 (some 1)) >>= fun rows =>
          pure rows.getLast? := by
    unfold fetchRow lookup
    cases identity.conditions with
    | ok conditions => rfl
    | error error => rfl
  rw [stated, runs_liftM_bind_iff]
  apply or_congr_right
  apply exists_congr
  intro statement
  apply and_congr_right
  intro _
  exact runs_perform_bind_pure_iff (.fetch statement 0 (some 1)) _ _ _

theorem finds_of_runs_fetchRow {table : Table} {identity : RowIdentity}
    {events : List Event} {row : Row}
    (runs : Runs (table.fetchRow identity) events (.ok (some row))) :
    ∃ event, events = [event] ∧ event.Finds table identity row := by
  rcases (table.runs_fetchRow_iff _ _ _).mp runs with
    ⟨error, -, -, fails⟩ | ⟨statement, stated, answer, rfl, ends⟩
  · simp at fails
  · cases answer with
    | error failure => simp [Except.map] at ends
    | ok rows =>
        have found : rows.getLast? = some row :=
          (Except.ok.inj ends).symm
        exact ⟨_, rfl, statement, rows, stated, rfl, found⟩

/-- A lookup that is answered with rows finds the last one. -/
theorem runs_fetchRow_of_finds {table : Table} {identity : RowIdentity}
    {event : Event} {row : Row} (finds : event.Finds table identity row) :
    Runs (table.fetchRow identity) [event] (.ok (some row)) := by
  obtain ⟨statement, rows, stated, rfl, found⟩ := finds
  refine (table.runs_fetchRow_iff _ _ _).mpr
    (.inr ⟨statement, stated, .ok rows, rfl, ?_⟩)
  exact congrArg Except.ok found.symm

theorem asks_fetchRow {permitted : Query → Prop} (table : Table)
    (identity : RowIdentity)
    (lookups : ∀ statement, permitted (.fetch statement 0 (some 1))) :
    Asks permitted (table.fetchRow identity) := by
  refine asks_bind (asks_liftM _ _) fun conditions => ?_
  refine asks_bind (asks_liftM _ _) fun statement => ?_
  refine asks_bind (asks_perform (lookups statement)) fun rows => ?_
  exact asks_pure _ _

end Table

end DataGrid
