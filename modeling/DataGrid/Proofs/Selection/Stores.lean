import DataGrid.Database.Storage
import DataGrid.Engine.Script
import DataGrid.Proofs.Json.TextLists
import DataGrid.Proofs.Selection.Sets
import DataGrid.Proofs.Time.Reading
import Mathlib.Logic.Function.Basic

/-!
# Two stores of selections

Selections are kept in memory as they are, and in a database as texts.  After
any calls both hold what the calls have put under each key.  Memory gives it
back unchanged; the database gives back the same set of ids, whatever characters
stand in them, as long as it can read the time of the change.
-/

namespace DataGrid.Selection

inductive StoreCall
  | put (key : SelectionKey) (selection : Selection)
  | get (key : SelectionKey)
deriving DecidableEq, Repr

namespace StoreCall

def query : StoreCall → Query
  | put key selection => .storeSelection key selection
  | get key => .loadSelection key

/-- The selections that have been put so far, each under its key. -/
abbrev Held := SelectionKey → Option Selection

/-- What a call makes of the selections that are held: a put replaces the one
under its key. -/
def hold (held : Held) : StoreCall → Held
  | put key selection => Function.update held key (some selection)
  | get _ => held

def holdAll (held : Held) (calls : List StoreCall) : Held :=
  calls.foldl hold held

def servedBy {σ : Type} (handler : Program.Handler σ) (calls : List StoreCall)
    (state : σ) : σ :=
  calls.foldl (fun state call => (handler call.query state).2) state

/-- What a single call keeps of a store, all calls keep. -/
theorem keeps_servedBy {σ : Type} {handler : Program.Handler σ}
    {Keeps : σ → Held → Prop}
    (keeps : ∀ {state held} (call : StoreCall), Keeps state held →
      Keeps (handler call.query state).2 (call.hold held))
    (calls : List StoreCall) {state : σ} {held : Held}
    (kept : Keeps state held) :
    Keeps (servedBy handler calls state) (holdAll held calls) := by
  induction calls generalizing state held with
  | nil => exact kept
  | cons call rest ih => exact ih (keeps call kept)

end StoreCall

end DataGrid.Selection

namespace DataGrid.Script

open Selection Selection.StoreCall

/-- The memory does not fail and has the selections that are held. -/
structure Keeps (script : Script) (held : Held) : Prop where
  loads : script.loadFailure = none
  stores : script.storeFailure = none
  get_eq : ∀ key, script.selections.get key = (held key).getD {}

variable {script : Script} {held : Held}

theorem keeps_empty : Keeps {} fun _ => none :=
  ⟨rfl, rfl, fun _ => rfl⟩

theorem Keeps.answer_load (keeps : script.Keeps held) (key : SelectionKey) :
    (answer (.loadSelection key) script).1 = .ok ((held key).getD {}) := by
  simp [answer, keeps.loads, keeps.get_eq]

theorem Keeps.answer_store (keeps : script.Keeps held) (key : SelectionKey)
    (selection : Selection) :
    (answer (.storeSelection key selection) script).1 = .ok () := by
  simp [answer, keeps.stores]

theorem Keeps.answer (keeps : script.Keeps held) (call : StoreCall) :
    (Script.answer call.query script).2.Keeps (call.hold held) := by
  cases call with
  | get key =>
      simp only [Script.answer, StoreCall.query, keeps.loads]
      exact ⟨rfl, keeps.stores, keeps.get_eq⟩
  | put key selection =>
      simp only [Script.answer, StoreCall.query, keeps.stores]
      refine ⟨keeps.loads, rfl, fun other => ?_⟩
      rw [SelectionMap.get_put, hold, Function.update_apply]
      split
      · rfl
      · exact keeps.get_eq other

end DataGrid.Script

namespace DataGrid.StoredSelection

theorem mapM_idOfJson?_texts (ids : List String) :
    (ids.map Json.text).mapM idOfJson? = some ids := by
  induction ids with
  | nil => rfl
  | cons id rest ih => simp [idOfJson?, ih]

/-- The ids of a selection are read back, whatever characters stand in them. -/
theorem readIds_ofSelection (selection : Selection) :
    readIds (ofSelection selection).ids =
      .ok (Selection.insertIds [] selection.ids) := by
  simp only [readIds, ofSelection, Json.read?_toText_textList,
    mapM_idOfJson?_texts]

end DataGrid.StoredSelection

namespace DataGrid.Selection

/-- The time of the change, if there is one, can be written with a year of four
digits. -/
def HasPlainTime (selection : Selection) : Prop :=
  ∀ instant ∈ selection.changed, instant.HasPlainYear

/-- The time of the change, if there is one, has no more nanoseconds than a
leap second does. -/
def IsTimed (selection : Selection) : Prop :=
  ∀ instant ∈ selection.changed,
    instant.nanoseconds < 2 * Instant.nanosecondsPerSecond

/-- The same set of ids, and a time of change for both or for neither. -/
structure ReadAs (selection read : Selection) : Prop where
  represents : read.Represents selection.ids.toFinset
  isSome_changed : read.changed.isSome = selection.changed.isSome

variable {selection : Selection}

theorem represents_insertIds (ids : List String) (changed : Option Instant) :
    Represents { ids := insertIds [] ids, changed } ids.toFinset where
  sorted := sorted_insertIds ids .nil
  mem_iff id := by simp [mem_insertIds]

theorem toSelection_ofSelection (timed : selection.IsTimed)
    (plain : selection.HasPlainTime) :
    ∃ read, (StoredSelection.ofSelection selection).toSelection = .ok read ∧
      selection.ReadAs read := by
  rw [StoredSelection.toSelection, StoredSelection.readIds_ofSelection]
  obtain ⟨ids, changed⟩ := selection
  cases changed with
  | none => exact ⟨_, rfl, represents_insertIds ids none, rfl⟩
  | some instant =>
      obtain ⟨time, read⟩ := Option.isSome_iff_exists.mp
        (Instant.isSome_ofText?_toText (plain instant rfl) (timed instant rfl))
      simp only [StoredSelection.ofSelection, Option.map_some,
        StoredSelection.readChanged, read]
      exact ⟨_, rfl, represents_insertIds ids (some time), rfl⟩

/-- What is said of a time that is written with a signed year. -/
def unreadTime (instant : Instant) : EngineFailure where
  kind := .query
  message := s!"invalid selection timestamp: {instant.toText}"

theorem toSelection_ofSelection_of_signed {instant : Instant}
    (changed : selection.changed = some instant)
    (signed : ¬ instant.HasPlainYear) :
    (StoredSelection.ofSelection selection).toSelection =
      .error (unreadTime instant) := by
  rw [StoredSelection.toSelection, StoredSelection.readIds_ofSelection]
  simp only [StoredSelection.ofSelection, changed, Option.map_some,
    StoredSelection.readChanged, Instant.ofText?_toText_of_signed signed]
  rfl

/-- A selection is read back exactly when its time is plain. -/
theorem reads_ofSelection_iff (timed : selection.IsTimed) :
    (∃ read, (StoredSelection.ofSelection selection).toSelection = .ok read ∧
      selection.ReadAs read) ↔ selection.HasPlainTime := by
  refine ⟨fun ⟨read, succeeds, _⟩ instant changed => ?_,
    toSelection_ofSelection timed⟩
  by_contra signed
  rw [toSelection_ofSelection_of_signed changed signed] at succeeds
  cases succeeds

theorem readAs_empty : ReadAs {} {} :=
  ⟨represents_empty, rfl⟩

end DataGrid.Selection

namespace DataGrid.Storage

open Selection Selection.StoreCall

/-- The table of selections is there and has the texts of the selections that
are held. -/
def Keeps (storage : Storage) (held : Held) : Prop :=
  ∃ database stored,
    storage.contents = some { database, selections := some stored } ∧
    ∀ key, stored.lookup key = (held key).map .ofSelection

variable {storage : Storage} {held : Held}

/-- The file holds no selections: it is missing, their table is missing, or it
has no rows. -/
def IsFresh (storage : Storage) : Prop :=
  ∀ contents ∈ storage.contents, contents.selections.getD [] = []

theorem keeps_create (fresh : storage.IsFresh) :
    storage.create.Keeps fun _ => none := by
  refine ⟨(storage.contents.getD {}).database, [], ?_, fun _ => rfl⟩
  rw [create]
  cases contents_eq : storage.contents with
  | none => rfl
  | some contents => simp [fresh contents contents_eq]

theorem lookup_filter_ne {stored : StoredSelections} {key other : SelectionKey}
    (different : other ≠ key) :
    (stored.filter (·.1 != key)).lookup other = stored.lookup other := by
  induction stored with
  | nil => rfl
  | cons entry rest ih =>
      by_cases same : entry.1 = key
      · have apart : (other == entry.1) = false :=
          beq_eq_false_iff_ne.mpr (same ▸ different)
        rw [List.filter_cons_of_neg (by simp [same]), ih, List.lookup_cons,
          apart]
      · rw [List.filter_cons_of_pos (by simp [same]), List.lookup_cons,
          List.lookup_cons, ih]

theorem Keeps.answer_load (keeps : storage.Keeps held) (key : SelectionKey) :
    (answer (.loadSelection key) storage).1 =
      match held key with
      | none => .ok {}
      | some selection =>
          (StoredSelection.ofSelection selection).toSelection := by
  obtain ⟨database, stored, contents_eq, lookup_eq⟩ := keeps
  simp only [answer, load, selections, contents_eq, bind, Except.bind,
    lookup_eq]
  cases held key <;> rfl

theorem Keeps.load_reads_iff (keeps : storage.Keeps held) {key : SelectionKey}
    (timed : ∀ selection ∈ held key, selection.IsTimed) :
    (∃ read, (answer (.loadSelection key) storage).1 = .ok read ∧
      ((held key).getD {}).ReadAs read) ↔
        ((held key).getD {}).HasPlainTime := by
  rw [keeps.answer_load]
  cases found : held key with
  | none => exact iff_of_true ⟨{}, rfl, readAs_empty⟩ (by simp [HasPlainTime])
  | some selection => exact reads_ofSelection_iff (timed selection found)

theorem Keeps.load_of_signed (keeps : storage.Keeps held) {key : SelectionKey}
    {instant : Instant} (changed : ((held key).getD {}).changed = some instant)
    (signed : ¬ instant.HasPlainYear) :
    (answer (.loadSelection key) storage).1 = .error (unreadTime instant) := by
  rw [keeps.answer_load]
  cases found : held key with
  | none => simp [found] at changed
  | some selection =>
      rw [found] at changed
      exact toSelection_ofSelection_of_signed changed signed

/-- A put stores the texts and leaves what is held with it. -/
theorem Keeps.answer_store (keeps : storage.Keeps held) (key : SelectionKey)
    (selection : Selection) :
    (answer (.storeSelection key selection) storage).1 = .ok () ∧
      (answer (.storeSelection key selection) storage).2.Keeps
        (Function.update held key (some selection)) := by
  obtain ⟨database, stored, contents_eq, lookup_eq⟩ := keeps
  let changed : StoredSelections :=
    (key, .ofSelection selection) :: stored.filter (·.1 != key)
  have written : storage.write key (.ofSelection selection) =
      .ok { storage with contents := some {
        database
        selections := some changed } } := by
    simp only [write, selections, contents_eq]
    rfl
  rw [answer, written]
  refine ⟨rfl, database, _, rfl, fun other => ?_⟩
  rw [Function.update_apply, List.lookup_cons]
  by_cases same : other = key
  · simp [same]
  · rw [beq_eq_false_iff_ne.mpr same, if_neg same]
    exact (lookup_filter_ne same).trans (lookup_eq other)

theorem Keeps.answer (keeps : storage.Keeps held) (call : StoreCall) :
    (Storage.answer call.query storage).2.Keeps (call.hold held) := by
  cases call with
  | get key => exact keeps
  | put key selection => exact (keeps.answer_store key selection).2

end DataGrid.Storage

namespace DataGrid.Selection

open StoreCall

def StoreCall.IsTimed : StoreCall → Prop
  | put _ selection => selection.IsTimed
  | get _ => True

theorem isTimed_of_holdAll {calls : List StoreCall}
    (timed : ∀ call ∈ calls, call.IsTimed) {held : Held}
    (heldTimed : ∀ key, ∀ selection ∈ held key, selection.IsTimed)
    (key : SelectionKey) :
    ∀ selection ∈ holdAll held calls key, selection.IsTimed := by
  induction calls generalizing held with
  | nil => exact heldTimed key
  | cons call rest ih =>
      obtain ⟨callTimed, restTimed⟩ := List.forall_mem_cons.mp timed
      refine ih restTimed fun other selection found => ?_
      cases call with
      | get _ => exact heldTimed other selection found
      | put changed put =>
          rw [hold, Function.update_apply] at found
          split at found
          · exact Option.mem_some_iff.mp found ▸ callTimed
          · exact heldTimed other selection found

/-- After any calls memory gives back what was put last under a key, or an empty
selection.  A database that held no selections gives back the same set of ids,
and a time of change for the same selections, exactly when the time has a year
of four digits.  Any other time was stored as a text that the database then does
not read.  Neither store ever fails to store a selection. -/
theorem load_servedBy_iff (calls : List StoreCall)
    (timed : ∀ call ∈ calls, call.IsTimed) {storage : Storage}
    (fresh : storage.IsFresh) (key : SelectionKey) :
    let held := (holdAll (fun _ => none) calls key).getD {}
    let memory := servedBy Script.answer calls {}
    let database := servedBy Storage.answer calls storage.create
    (Script.answer (.loadSelection key) memory).1 = .ok held ∧
      ((∃ read, (Storage.answer (.loadSelection key) database).1 = .ok read ∧
        held.ReadAs read) ↔ held.HasPlainTime) ∧
      (∀ instant ∈ held.changed, ¬ instant.HasPlainYear →
        (Storage.answer (.loadSelection key) database).1 =
          .error (unreadTime instant)) ∧
      ∀ selection,
        (Script.answer (.storeSelection key selection) memory).1 = .ok () ∧
        (Storage.answer (.storeSelection key selection) database).1 =
          .ok () := by
  intro held memory database
  have remembers : memory.Keeps (holdAll (fun _ => none) calls) :=
    keeps_servedBy (fun call keeps => keeps.answer call) calls
      Script.keeps_empty
  have stores : database.Keeps (holdAll (fun _ => none) calls) :=
    keeps_servedBy (fun call keeps => keeps.answer call) calls
      (Storage.keeps_create fresh)
  have heldTimed := isTimed_of_holdAll timed
    (fun _ _ found => absurd found (Option.not_mem_none _)) key
  exact ⟨remembers.answer_load key, stores.load_reads_iff heldTimed,
    fun _ => stores.load_of_signed, fun selection =>
      ⟨remembers.answer_store key selection,
        (stores.answer_store key selection).1⟩⟩

/-- An id with a quotation mark, a backslash and a line break is read back from
a new file. -/
theorem load_servedBy_quoted :
    let key : SelectionKey := { table := "people", session := "a" }
    let selection : Selection := {
      ids := ["\"\\\n"]
      changed := some { seconds := 1707400800, nanoseconds := 0 } }
    let storage : Storage := { path := "grid.sqlite" }
    (∀ call ∈ [put key selection], call.IsTimed) ∧ storage.IsFresh ∧
      ∃ read, (Storage.answer (.loadSelection key)
        (servedBy Storage.answer [put key selection] storage.create)).1 =
          .ok read ∧ selection.ReadAs read := by
  intro key selection storage
  have timed : ∀ call ∈ [put key selection], call.IsTimed := by
    simp [StoreCall.IsTimed, IsTimed, selection, Instant.nanosecondsPerSecond]
  have fresh : storage.IsFresh := by simp [Storage.IsFresh, storage]
  have plain : selection.HasPlainTime := by
    intro instant changed
    obtain rfl := Option.mem_some_iff.mp changed
    decide
  have held_eq : (holdAll (fun _ => none) [put key selection] key).getD {} =
      selection := by
    simp [holdAll, hold]
  refine ⟨timed, fresh, ?_⟩
  have reads := (load_servedBy_iff [put key selection] timed fresh key).2.1
  rw [held_eq] at reads
  exact reads.mpr plain

/-- The first hour of the year ten thousand can be stored, and cannot be read
back. -/
theorem not_forall_load_servedBy :
    ¬ ∀ (calls : List StoreCall) (storage : Storage) (key : SelectionKey),
      (∀ call ∈ calls, call.IsTimed) → storage.IsFresh →
      ∃ remembered read,
        (Script.answer (.loadSelection key)
          (servedBy Script.answer calls {})).1 = .ok remembered ∧
        (Storage.answer (.loadSelection key)
          (servedBy Storage.answer calls storage.create)).1 = .ok read ∧
        remembered.ReadAs read := by
  intro always
  let key : SelectionKey := { table := "people", session := "a" }
  let instant : Instant := { seconds := 253402304399, nanoseconds := 0 }
  let calls := [put key { ids := ["1"], changed := some instant }]
  let storage : Storage := { path := "grid.sqlite" }
  have timed : ∀ call ∈ calls, call.IsTimed := by
    simp [calls, StoreCall.IsTimed, IsTimed, instant,
      Instant.nanosecondsPerSecond]
  have fresh : storage.IsFresh := by simp [Storage.IsFresh, storage]
  have stores : (servedBy Storage.answer calls storage.create).Keeps
      (holdAll (fun _ => none) calls) :=
    keeps_servedBy (fun call keeps => keeps.answer call) calls
      (Storage.keeps_create fresh)
  have signed : ¬ instant.HasPlainYear := by decide
  have changed : ((holdAll (fun _ => none) calls key).getD {}).changed =
      some instant := by
    simp [calls, holdAll, hold]
  obtain ⟨_, read, -, succeeds, -⟩ := always calls storage key timed fresh
  rw [stores.load_of_signed changed signed] at succeeds
  cases succeeds

end DataGrid.Selection
