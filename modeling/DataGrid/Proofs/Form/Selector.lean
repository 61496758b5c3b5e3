import DataGrid.Engine.Script
import DataGrid.Proofs.Form.Written
import DataGrid.Proofs.Source.Bound

/-!
# Fields that a save may not change

The row selector of a form names fields that a client may submit but not change.
Before a row is changed, it is looked up under its id, and every selected field
that is among the data has to have the text that is found there.  Otherwise the
save is refused, and nothing is executed.
-/

namespace DataGrid

open Program Sql

/-- A field is submitted with another text than the stored row has.  A field
that the stored row lacks has no text there. -/
def Row.Differs (stored data : Row) (field : String) : Prop :=
  ∃ submitted, Json.Fields.get? data field = some submitted ∧
    submitted.plain ≠ stored.cellText field

namespace Table

variable {table : Table} {form : Form} {id : String} {stored data : Row}

theorem checkSelector_cons_of_same {field : String}
    (same : ¬ stored.Differs data field) (rest : List String) :
    checkSelector form id stored data (field :: rest) =
      checkSelector form id stored data rest := by
  rw [checkSelector]
  split
  · rename_i submitted given
    exact if_pos (not_not.mp fun other => same ⟨submitted, given, other⟩)
  · rfl

theorem checkSelector_cons_of_differs {field : String}
    (differs : stored.Differs data field) (rest : List String) :
    checkSelector form id stored data (field :: rest) =
      .error (.permission (.fieldFixed field id)) := by
  obtain ⟨submitted, given, other⟩ := differs
  rw [checkSelector, given]
  exact if_neg other

theorem checkSelector_of_same {fields : List String}
    (same : ∀ field ∈ fields, ¬ stored.Differs data field) :
    checkSelector form id stored data fields = .ok () := by
  induction fields with
  | nil => rfl
  | cons field rest ih =>
      obtain ⟨here, later⟩ := List.forall_mem_cons.mp same
      rw [checkSelector_cons_of_same here]
      exact ih later

/-- The check ends at a field that differs, if there is one. -/
theorem checkSelector_of_differs (form : Form) (id : String)
    {fields : List String}
    (differs : ∃ field ∈ fields, stored.Differs data field) :
    ∃ field ∈ fields, stored.Differs data field ∧
      checkSelector form id stored data fields =
        .error (.permission (.fieldFixed field id)) := by
  induction fields with
  | nil => simp at differs
  | cons field rest ih =>
      by_cases here : stored.Differs data field
      · exact ⟨field, List.mem_cons_self, here,
          checkSelector_cons_of_differs here rest⟩
      · have later : ∃ field ∈ rest, stored.Differs data field := by
          simpa [here] using differs
        obtain ⟨first, member, other, refused⟩ := ih later
        exact ⟨first, List.mem_cons_of_mem _ member, other,
          (checkSelector_cons_of_same here rest).trans refused⟩

theorem checkSelector_eq_ok_iff (fields : List String) :
    checkSelector form id stored data fields = .ok () ↔
      ∀ field ∈ fields, ¬ stored.Differs data field := by
  refine ⟨fun passes field member differs => ?_, checkSelector_of_same⟩
  obtain ⟨_, -, -, refused⟩ :=
    checkSelector_of_differs form id ⟨field, member, differs⟩
  rw [passes] at refused
  cases refused

/-- What the row selector of a form says of data and of the row that was found
under their id, if one was. -/
def checkFound (form : Form) (id : String) (data : Row) :
    Option Row → Except Error Unit
  | some stored => checkSelector form id stored data form.rowSelector
  | none => .error (.permission (.rowNotFound id))

/-- With a row selector, a check is one lookup of the row, and a verdict on what
is found. -/
theorem runs_checkRow_iff (selects : form.rowSelector ≠ [])
    {statement : Statement}
    (stated : table.lookup (.single id) = .ok statement)
    (events : List Event) (outcome : Except Error Unit) :
    Runs (table.checkRow form id data) events outcome ↔
      ∃ answer, events = [⟨.fetch statement 0 (some 1), answer⟩] ∧
        outcome = needed answer >>= fun rows =>
          checkFound form id data rows.getLast? := by
  have checks : table.checkRow form id data =
      table.fetchRow (.single id) >>= fun found =>
        liftM (checkFound form id data found) := by
    rw [checkRow, if_neg (by simpa using selects)]
    refine bind_congr fun found => ?_
    cases found <;> rfl
  rw [checks, runs_bind_liftM_iff]
  simp only [runs_fetchRow_iff, stated, reduceCtorEq, false_and, exists_false,
    false_or, Except.ok.injEq, exists_eq_left']
  constructor
  · rintro ⟨_, ⟨answer, rfl, rfl⟩, rfl⟩
    exact ⟨answer, rfl, by cases answer <;> rfl⟩
  · rintro ⟨answer, rfl, rfl⟩
    exact ⟨_, ⟨answer, rfl, rfl⟩, by cases answer <;> rfl⟩

/-- Storing data with an id begins with the check of their row. -/
theorem check_of_runs_storeRow {physical : String} {events : List Event}
    {outcome : Except Error StoreOutcome}
    (writable : table.source.physicalTable = .ok physical)
    (holds : data.id? = some id)
    (runs : Runs (table.storeRow form data) events outcome) :
    ∃ checked rest verdict, events = checked ++ rest ∧
      Runs (table.checkRow form id data) checked verdict ∧
      ∀ error, verdict = .error error → rest = [] ∧ outcome = .error error := by
  by_cases given : writtenValues form data = []
  · obtain ⟨verdict, checks, rfl⟩ :=
      (runs_storeRow_unchanged_iff writable holds given _ _).mp runs
    refine ⟨events, [], verdict, by simp, checks, ?_⟩
    rintro error rfl
    exact ⟨rfl, rfl⟩
  · rcases (runs_storeRow_update_iff writable holds given _ _).mp runs with
      ⟨error, fails, rfl⟩ | ⟨checked, answer, rfl, checks, -⟩
    · refine ⟨events, [], .error error, by simp, fails, ?_⟩
      rintro _ ⟨⟩
      exact ⟨rfl, rfl⟩
    · exact ⟨checked, _, .ok (), rfl, checks, by simp⟩

/-- The data are refused: nothing more is asked, and a permission is lacking. -/
def Refused (fault : PermissionFault) (rest : List Event)
    (outcome : Except Error StoreOutcome) : Prop :=
  rest = [] ∧ outcome = .error (.permission fault)

/-- What is asked after the row of the data has been checked: the change of the
declared fields among the data, if there are any. -/
def Changed (table : Table) (physical : String) (form : Form) (data : Row)
    (id : String) (rest : List Event) (outcome : Except Error StoreOutcome) :
    Prop :=
  if form.presentNames data = [] then
    rest = [] ∧ outcome = .ok (.updated id)
  else
    ∃ answer, rest = [⟨.execute (table.updateStatement physical form data id),
        answer⟩] ∧
      outcome = (needed answer).map fun _ => .updated id

/-- The row that is found decides whether the data are refused. -/
theorem concludes_of_runs_storeRow {physical : String} {statement : Statement}
    {rows : List Row} {rest : List Event} {outcome : Except Error StoreOutcome}
    (selects : form.rowSelector ≠ [])
    (writable : table.source.physicalTable = .ok physical)
    (holds : data.id? = some id)
    (stated : table.lookup (.single id) = .ok statement)
    (runs : Runs (table.storeRow form data)
      (⟨.fetch statement 0 (some 1), .ok rows⟩ :: rest) outcome) :
    (rows = [] → Refused (.rowNotFound id) rest outcome) ∧
    ∀ stored, rows.getLast? = some stored →
      ((∃ field ∈ form.rowSelector, stored.Differs data field) →
        ∃ field ∈ form.rowSelector, stored.Differs data field ∧
          Refused (.fieldFixed field id) rest outcome) ∧
      ((∀ field ∈ form.rowSelector, ¬ stored.Differs data field) →
        Changed table physical form data id rest outcome) := by
  -- The verdict follows from what is found, so it is known with the rows.
  have checks : Runs (table.checkRow form id data)
      [⟨.fetch statement 0 (some 1), .ok rows⟩]
      (checkFound form id data rows.getLast?) :=
    (runs_checkRow_iff selects stated _ _).mpr ⟨.ok rows, rfl, rfl⟩
  have refused (error : Error)
      (fails : checkFound form id data rows.getLast? = .error error) :
      rest = [] ∧ outcome = .error error := by
    obtain ⟨checked, more, verdict, split, repeats, ends⟩ :=
      check_of_runs_storeRow writable holds runs
    obtain ⟨rfl, rfl⟩ := checks.deterministic repeats split
    exact ends error fails
  refine ⟨?absent, fun stored found => ⟨?differs, ?same⟩⟩
  case absent =>
    rintro rfl
    exact refused _ rfl
  case differs =>
    intro differs
    obtain ⟨field, member, other, fails⟩ :=
      checkSelector_of_differs form id differs
    refine ⟨field, member, other, refused _ ?_⟩
    rw [found]
    exact fails
  case same =>
    intro same
    rw [found, checkFound, checkSelector_of_same same] at checks
    exact (runs_storeRow_checked_iff writable holds checks rest outcome).mp runs

/-- Selected fields never change.  A row is changed only right after it has been
found under the id that is changed, with the text of every selected field that
is among the data.  Where the rows of the form have a table, data with an id are
looked up first, and refused when no row is found or a selected field differs
from the one that is; otherwise the row is changed. -/
theorem storeRow_keeps_selected (table : Table) (form : Form) (data : Row)
    (selects : form.rowSelector ≠ []) {events : List Event}
    {outcome : Except Error StoreOutcome}
    (runs : Runs (table.storeRow form data) events outcome) :
    (∀ before event after value, events = before ++ event :: after →
      event.query.Updates value →
      ∃ id lookup stored, data.id? = some id ∧ value = .ofRowId id ∧
        before = [lookup] ∧ lookup.Finds table (.single id) stored ∧
        ∀ field ∈ form.rowSelector, ¬ stored.Differs data field) ∧
    ∀ id, data.id? = some id →
      (∃ error, table.source.physicalTable = .error error ∧ events = [] ∧
        outcome = .error error) ∨
      ∃ physical statement answer rest,
        table.source.physicalTable = .ok physical ∧
        table.lookup (.single id) = .ok statement ∧
        events = ⟨.fetch statement 0 (some 1), answer⟩ :: rest ∧
        ∀ rows, answer = .ok rows →
          (rows = [] → Refused (.rowNotFound id) rest outcome) ∧
          ∀ stored, rows.getLast? = some stored →
            ((∃ field ∈ form.rowSelector, stored.Differs data field) →
              ∃ field ∈ form.rowSelector, stored.Differs data field ∧
                Refused (.fieldFixed field id) rest outcome) ∧
            ((∀ field ∈ form.rowSelector, ¬ stored.Differs data field) →
              Changed table physical form data id rest outcome) := by
  constructor
  · rintro before event after value rfl updates
    obtain ⟨id, holds, written, checks⟩ := update_of_runs_storeRow runs updates
    rcases runs_checkRow_ok checks with
      ⟨none, -⟩ | ⟨-, lookup, stored, before_eq, finds, passes⟩
    · exact absurd none selects
    · exact ⟨id, lookup, stored, holds, written, before_eq, finds,
        (checkSelector_eq_ok_iff _).mp passes⟩
  · intro id holds
    cases writable : table.source.physicalTable with
    | error error =>
        obtain ⟨rfl, rfl⟩ := (runs_storeRow_unknown_iff writable _ _).mp runs
        exact .inl ⟨error, rfl, rfl, rfl⟩
    | ok physical =>
        obtain ⟨statement, stated, -⟩ :=
          table.source.exists_rowStatement [("id", .ofRowId id)]
        have looked : table.lookup (.single id) = .ok statement := stated
        obtain ⟨checked, rest, verdict, rfl, checks, -⟩ :=
          check_of_runs_storeRow writable holds runs
        obtain ⟨answer, rfl, -⟩ :=
          (runs_checkRow_iff selects looked _ _).mp checks
        refine .inr ⟨physical, statement, answer, rest, rfl, looked, rfl, ?_⟩
        rintro rows rfl
        exact concludes_of_runs_storeRow selects writable holds looked runs

end Table

namespace Demo

/-- A form for the name, which keeps the note and the role as they are. -/
def roleForm : Form :=
  { nameForm with rowSelector := ["note", "role"] }

def user : Row :=
  [("id", .ofInt 1), ("name", .text "Bob"), ("role", .text "user")]

def renamedUser : Row :=
  [("id", .text "1"), ("name", .text "Ann"), ("role", .text "user")]

def promotedUser : Row :=
  [("id", .text "1"), ("name", .text "Ann"), ("role", .text "admin")]

/-- The engine finds the user. -/
def userScript : Script where
  pages := [.ok [user]]

end Demo

namespace Table

/-- A user is found and renamed, and is found but not promoted. -/
theorem user_keeps_role :
    Demo.roleForm.rowSelector ≠ [] ∧
    (∃ lookup update outcome,
      Runs (Demo.directory.storeRow Demo.roleForm Demo.renamedUser)
        [lookup, update] outcome ∧
      update.query.Updates (.ofRowId "1") ∧
      ∃ stored, lookup.Finds Demo.directory (.single "1") stored ∧
        ¬ stored.Differs Demo.renamedUser "role") ∧
    ∃ lookup outcome,
      Runs (Demo.directory.storeRow Demo.roleForm Demo.promotedUser)
        [lookup] outcome ∧
      ∃ field ∈ Demo.roleForm.rowSelector,
        outcome = .error (.permission (.fieldFixed field "1")) := by
  have selects : Demo.roleForm.rowSelector ≠ [] := by decide
  refine ⟨selects, ?renamed, ?promoted⟩
  case renamed =>
    obtain ⟨lookup, update, events_eq, updates⟩ : ∃ lookup update,
        (Demo.directory.storeRow Demo.roleForm Demo.renamedUser).transcript
          Script.answer Demo.userScript = [lookup, update] ∧
        update.query.Updates (.ofRowId "1") :=
      ⟨_, _, rfl, updates_writeUpdate _ _ _ _⟩
    have runs := runs_transcript Script.answer
      (Demo.directory.storeRow Demo.roleForm Demo.renamedUser) Demo.userScript
    rw [events_eq] at runs
    obtain ⟨id, first, stored, holds, -, before_eq, finds, same⟩ :=
      (storeRow_keeps_selected _ _ _ selects runs).1 [lookup] update [] _ rfl
        updates
    obtain rfl := List.singleton_inj.mp before_eq
    obtain rfl : "1" = id := Option.some.inj holds
    exact ⟨lookup, update, _, runs, updates, stored, finds,
      same "role" (by decide)⟩
  case promoted =>
    obtain ⟨statement, events_eq⟩ : ∃ statement,
        (Demo.directory.storeRow Demo.roleForm Demo.promotedUser).transcript
          Script.answer Demo.userScript =
            [⟨.fetch statement 0 (some 1), .ok [Demo.user]⟩] :=
      ⟨_, rfl⟩
    have runs := runs_transcript Script.answer
      (Demo.directory.storeRow Demo.roleForm Demo.promotedUser) Demo.userScript
    rw [events_eq] at runs
    have writable : Demo.directory.source.physicalTable = .ok "people" := by
      decide +kernel
    have differs : Demo.user.Differs Demo.promotedUser "role" :=
      ⟨.text "admin", rfl, by decide +kernel⟩
    rcases (storeRow_keeps_selected _ _ _ selects runs).2 "1" rfl with
      ⟨error, fails, -⟩ |
      ⟨physical, other, answer, rest, -, -, split, concludes⟩
    · rw [writable] at fails
      cases fails
    · obtain ⟨⟨⟩, rfl⟩ := List.cons.inj split
      obtain ⟨field, member, -, -, refused⟩ := ((concludes [Demo.user] rfl).2
        Demo.user rfl).1 ⟨"role", by decide, differs⟩
      exact ⟨_, _, runs, field, member, refused⟩

end Table

end DataGrid
