import DataGrid.Proofs.Form.Save
import DataGrid.Proofs.Form.Statements

/-!
# What storing writes

Storing data executes one statement or none.  Which one, and with which values,
is decided by the declared fields that the data have and by their id.
-/

namespace DataGrid

open Sql

/-- The statement that an event executes, if it executes one. -/
def Event.executed? : Event → Option Statement
  | ⟨.execute statement, _⟩ => some statement
  | _ => none

/-- The statements that are executed in some events. -/
def executed (events : List Event) : List Statement :=
  events.filterMap Event.executed?

@[simp]
theorem executed_append (first rest : List Event) :
    executed (first ++ rest) = executed first ++ executed rest :=
  List.filterMap_append

@[simp]
theorem executed_execute (statement : Statement)
    (answer : Query.Answer (.execute statement)) :
    executed [⟨.execute statement, answer⟩] = [statement] :=
  rfl

theorem executed_eq_nil_of_reads {events : List Event}
    (reads : ∀ event ∈ events, event.query.Reads) : executed events = [] := by
  refine List.filterMap_eq_nil_iff.mpr fun event member => ?_
  have read := reads event member
  obtain ⟨query, answer⟩ := event
  cases query with
  | execute statement => exact read.elim
  | _ => rfl

namespace Table

open Program

theorem executed_of_runs_checkRow {table : Table} {form : Form} {id : String}
    {data : Row} {events : List Event} {outcome : Except Error Unit}
    (runs : Runs (table.checkRow form id data) events outcome) :
    executed events = [] :=
  executed_eq_nil_of_reads
    (table.asks_checkRow form id data (fun _ => trivial) _ _ runs)

/-- The text of the statement that stores data with these declared fields, and
with an id or without one. -/
def storeText (physical : String) (names : List String) (identified : Bool)
    (style : Style) : String :=
  if identified then updateText physical names style
  else insertText physical names style

/-- Storing data executes one statement or none, and its text knows no more of
the data than which declared fields they have, and whether they have an id. -/
theorem executed_of_runs_storeRow {table : Table} {form : Form} {data : Row}
    {events : List Event} {outcome : Except Error StoreOutcome}
    (runs : Runs (table.storeRow form data) events outcome) :
    executed events = [] ∨ ∃ physical statement,
      table.source.physicalTable = .ok physical ∧
      executed events = [statement] ∧
      statement.sql = storeText physical (form.presentNames data)
        data.id?.isSome table.source.style := by
  cases writable : table.source.physicalTable with
  | error error =>
      obtain ⟨rfl, -⟩ := (runs_storeRow_unknown_iff writable _ _).mp runs
      exact .inl rfl
  | ok physical =>
      cases holds : data.id? with
      | none =>
          obtain ⟨answer, rfl, -⟩ :=
            (runs_storeRow_insert_iff writable holds _ _).mp runs
          exact .inr ⟨physical, _, rfl, executed_execute _ _,
            congrArg Statement.sql (table.statement_insert physical form data)⟩
      | some id =>
          by_cases given : writtenValues form data = []
          · obtain ⟨result, checks, -⟩ :=
              (runs_storeRow_unchanged_iff writable holds given _ _).mp runs
            exact .inl (executed_of_runs_checkRow checks)
          · rcases (runs_storeRow_update_iff writable holds given _ _).mp
              runs with ⟨error, fails, -⟩ | ⟨checked, answer, rfl, checks, -⟩
            · exact .inl (executed_of_runs_checkRow fails)
            · refine .inr ⟨physical, _, rfl, ?_, congrArg Statement.sql
                (table.statement_update physical form data id)⟩
              rw [executed_append, executed_of_runs_checkRow checks]
              rfl

theorem presentNames_eq_of_same {form : Form} {data other : Row}
    (same : ∀ field ∈ form.fields, field.name ≠ "id" →
      (Json.Fields.get? data field.name).isSome =
        (Json.Fields.get? other field.name).isSome) :
    form.presentNames data = form.presentNames other := by
  rw [Form.presentNames, Form.presentNames]
  congr 1
  refine List.filter_congr fun name member => ?_
  obtain ⟨field, declared, rfl⟩ := List.mem_map.mp member
  by_cases identifies : field.name = "id"
  · simp [identifies]
  · rw [same field declared identifies]

/-- With an id among the data, what follows a passing check is the change of
the declared fields, if there are any. -/
theorem runs_storeRow_checked_iff {table : Table} {form : Form} {data : Row}
    {physical id : String} {checked : List Event}
    (writable : table.source.physicalTable = .ok physical)
    (holds : data.id? = some id)
    (checks : Runs (table.checkRow form id data) checked (.ok ()))
    (rest : List Event) (outcome : Except Error StoreOutcome) :
    Runs (table.storeRow form data) (checked ++ rest) outcome ↔
      if form.presentNames data = [] then
        rest = [] ∧ outcome = .ok (.updated id)
      else
        ∃ answer, rest = [⟨.execute
            (table.updateStatement physical form data id), answer⟩] ∧
          outcome = (needed answer).map fun _ => .updated id := by
  split
  · rename_i none
    have given := (writtenValues_eq_nil_iff form data).mpr none
    rw [runs_storeRow_unchanged_iff writable holds given]
    constructor
    · rintro ⟨result, again, rfl⟩
      obtain ⟨rfl, rfl⟩ := checks.deterministic again
        (List.append_nil _).symm
      exact ⟨rfl, rfl⟩
    · rintro ⟨rfl, rfl⟩
      exact ⟨.ok (), by simpa using checks, rfl⟩
  · rename_i some
    have given := (writtenValues_eq_nil_iff form data).not.mpr some
    rw [runs_storeRow_update_iff writable holds given,
      statement_update]
    constructor
    · rintro (⟨error, fails, rfl⟩ | ⟨again, answer, split, repeats, rfl⟩)
      · obtain ⟨impossible, -⟩ := checks.deterministic fails
          (List.append_nil _).symm
        simp at impossible
      · obtain ⟨-, rfl⟩ := checks.deterministic repeats split
        exact ⟨answer, rfl, rfl⟩
    · rintro ⟨answer, rfl, rfl⟩
      exact .inr ⟨checked, answer, rfl, checks, rfl⟩

/-- Storing data writes the declared fields that the data have, each of them
once and bound to its own value, in a statement of which the data decide no
more than that: data with an id change the row with that id, unless there is
nothing to write, and data without one add a row. -/
theorem storeRow_writes_declared (table : Table) (form : Form) (data : Row) :
    (∀ events outcome, Runs (table.storeRow form data) events outcome →
      (executed events).length ≤ 1) ∧
    (∀ physical, table.source.physicalTable = .ok physical →
      (∀ value, Json.Fields.get? data "id" = some value → value ≠ .null →
        value ≠ .text "" → ∀ checked,
        Runs (table.checkRow form value.plain data) checked (.ok ()) →
        executed checked = [] ∧ ∀ rest outcome,
          Runs (table.storeRow form data) (checked ++ rest) outcome ↔
            if form.presentNames data = [] then
              rest = [] ∧ outcome = .ok (.updated value.plain)
            else
              ∃ answer, rest = [⟨.execute (table.updateStatement physical form
                  data value.plain), answer⟩] ∧
                outcome = (needed answer).map fun _ => .updated value.plain) ∧
      ((∀ value, Json.Fields.get? data "id" = some value →
          value = .null ∨ value = .text "") →
        ∀ events outcome, Runs (table.storeRow form data) events outcome ↔
          ∃ answer, events = [⟨.execute (table.insertStatement physical form
              data), answer⟩] ∧
            outcome = (needed answer).map fun _ => .inserted)) ∧
    ∀ other : Row,
      (∀ field ∈ form.fields, field.name ≠ "id" →
        (Json.Fields.get? data field.name).isSome =
          (Json.Fields.get? other field.name).isSome) →
      data.id?.isSome = other.id?.isSome →
      ∀ events outcome more result,
        Runs (table.storeRow form data) events outcome →
        Runs (table.storeRow form other) more result →
        ∀ first ∈ executed events, ∀ second ∈ executed more,
          first.sql = second.sql := by
  refine ⟨?atMostOne, fun physical writable => ⟨?update, ?insert⟩, ?alike⟩
  case atMostOne =>
    intro events outcome runs
    rcases executed_of_runs_storeRow runs with
      none | ⟨physical, statement, -, one, -⟩
    · simp [none]
    · simp [one]
  case update =>
    intro value found given nonempty checked checks
    have holds : data.id? = some value.plain :=
      (data.id?_eq_some_iff _).mpr ⟨value, found, given, nonempty, rfl⟩
    exact ⟨executed_of_runs_checkRow checks,
      runs_storeRow_checked_iff writable holds checks⟩
  case insert =>
    intro unidentified events outcome
    have absent : data.id? = none := by
      rw [Option.eq_none_iff_forall_ne_some]
      intro id holds
      obtain ⟨value, found, given, nonempty, -⟩ :=
        (data.id?_eq_some_iff id).mp holds
      exact (unidentified value found).elim given nonempty
    rw [← statement_insert]
    exact runs_storeRow_insert_iff writable absent events outcome
  case alike =>
    intro other same identified events outcome more result runs others
      first firstOf second secondOf
    rcases executed_of_runs_storeRow runs with
      none | ⟨physical, statement, writable, one, text⟩
    · simp [none] at firstOf
    rcases executed_of_runs_storeRow others with
      none | ⟨otherPhysical, otherStatement, otherWritable, otherOne, otherText⟩
    · simp [none] at secondOf
    obtain rfl : physical = otherPhysical :=
      Except.ok.inj (writable.symm.trans otherWritable)
    obtain rfl : first = statement := by
      simpa [one] using firstOf
    obtain rfl : second = otherStatement := by
      simpa [otherOne] using secondOf
    rw [text, otherText, presentNames_eq_of_same same, identified]

end Table

namespace Demo

/-- A form that declares one of its fields twice, and the id, too. -/
def ageForm : Form where
  id := "age"
  title := "Age"
  fields := [{ name := "name", label := "name" }, { name := "id", label := "" },
    { name := "name", label := "again" }, { name := "age", label := "age" }]

def known : Row :=
  [("role", .text "admin"), ("age", .ofInt 40), ("id", .text "7"),
    ("name", .text "Ann")]

def renamed : Row :=
  [("name", .text "Bob"), ("id", .ofInt 9), ("age", .null)]

def newcomer : Row :=
  [("age", .ofInt 18), ("id", .null), ("name", .text "Cy")]

open Program Table

/-- Rows of people are written field by field, undeclared ones left out. -/
theorem people_written_declared :
    Runs (directory.storeRow ageForm known)
      [⟨.execute ⟨"UPDATE people SET name = ?, age = ? WHERE id = ?",
        .positional [.text "Ann", .integer 40, .integer 7]⟩, .ok 1⟩]
      (.ok (.updated "7")) ∧
    Runs (directory.storeRow ageForm newcomer)
      [⟨.execute ⟨"INSERT INTO people (name, age) VALUES (?, ?)",
        .positional [.text "Cy", .integer 18]⟩, .ok 1⟩] (.ok .inserted) ∧
    ∀ events outcome, Runs (directory.storeRow ageForm renamed) events outcome →
      ∀ statement ∈ executed events,
        statement.sql = "UPDATE people SET name = ?, age = ? WHERE id = ?" := by
  have writable : directory.source.physicalTable = .ok "people" := by
    decide +kernel
  have updates : directory.updateStatement "people" ageForm known "7" =
      ⟨"UPDATE people SET name = ?, age = ? WHERE id = ?",
        .positional [.text "Ann", .integer 40, .integer 7]⟩ := by
    decide +kernel
  have inserts : directory.insertStatement "people" ageForm newcomer =
      ⟨"INSERT INTO people (name, age) VALUES (?, ?)",
        .positional [.text "Cy", .integer 18]⟩ := by
    decide +kernel
  obtain ⟨-, written, alike⟩ :=
    storeRow_writes_declared directory ageForm known
  obtain ⟨-, added, -⟩ := storeRow_writes_declared directory ageForm newcomer
  have update : Runs (directory.storeRow ageForm known)
      ([] ++ [⟨.execute (directory.updateStatement "people" ageForm known "7"),
        .ok 1⟩]) (.ok (.updated "7")) := by
    refine (((written "people" writable).1 (.text "7") rfl (by simp)
      (by simp) [] ?_).2 _ _).mpr ?_
    · exact (runs_pure_iff _ _ _).mpr ⟨rfl, rfl⟩
    · rw [if_neg (by decide +kernel)]
      exact ⟨.ok 1, rfl, rfl⟩
  refine ⟨updates ▸ update, ?_, ?_⟩
  · rw [← inserts]
    refine ((added "people" writable).2 ?_ _ _).mpr ⟨.ok 1, rfl, rfl⟩
    intro value found
    exact .inl (Option.some.inj found).symm
  · intro events outcome runs statement member
    have same := alike renamed (by decide +kernel) (by decide +kernel) _ _ _ _
      update runs (directory.updateStatement "people" ageForm known "7") ?_
      statement member
    · rw [← same, updates]
    · simp

end Demo

end DataGrid
