import DataGrid.Engine.Script
import DataGrid.Proofs.Selection.Sets
import DataGrid.Selection.Service

/-!
# Calls on stored selections

Calls for many tables and sessions come in any order, and the store may fail
when it is read or written.  Each key has its own set, which is what the calls
on that key that succeeded make of the empty set.
-/

namespace DataGrid.Selection

/-- A change of a selection that a client asks for. -/
inductive Operation
  | set (selected unselected : List String)
  | add (ids : List String)
  | clear
deriving DecidableEq, Repr

namespace Operation

/-- What an operation makes of a set of ids. -/
def apply (set : Finset String) : Operation → Finset String
  | .set selected unselected =>
      (set ∪ selected.toFinset) \ unselected.toFinset
  | .add ids => set ∪ ids.toFinset
  | .clear => ∅

/-- What an operation makes of a selection. -/
def change (selection : Selection) (now : Instant) : Operation → Selection
  | .set selected unselected => selection.change selected unselected now
  | .add ids => selection.extend ids now
  | .clear => selection.clear now

theorem represents_change {selection : Selection} {set : Finset String}
    (represents : selection.Represents set) (operation : Operation)
    (now : Instant) :
    (operation.change selection now).Represents (operation.apply set) := by
  cases operation with
  | set selected unselected =>
      exact Selection.represents_change represents selected unselected now
  | add ids => exact represents_extend represents ids now
  | clear => exact represents_clear selection now

theorem changed_change (selection : Selection) (operation : Operation)
    (now : Instant) : (operation.change selection now).changed = some now := by
  cases operation <;> rfl

/-- Selecting and unselecting the same rows once more makes no difference. -/
theorem apply_set_apply_set (set : Finset String)
    (selected unselected : List String) :
    (Operation.set selected unselected).apply
        ((Operation.set selected unselected).apply set) =
      (Operation.set selected unselected).apply set := by
  ext id
  simp only [apply, Finset.mem_sdiff, Finset.mem_union]
  tauto

end Operation

/-- A call of one operation on the selection under a key, and the failures that
the store answers it with. -/
structure Call where
  key : SelectionKey
  operation : Operation
  now : Instant
  loadFailure : Option EngineFailure := none
  storeFailure : Option EngineFailure := none

namespace Call

def program (call : Call) : Program Selection :=
  match call.operation with
  | .set selected unselected =>
      setSelected call.key selected unselected call.now
  | .add ids => selectAll call.key ids call.now
  | .clear => selectNone call.key call.now

/-- A call is answered from memory, unless the store fails. -/
def perform (call : Call) (script : Script) :
    Except Error Selection × Script :=
  call.program.run Script.answer { script with
    loadFailure := call.loadFailure
    storeFailure := call.storeFailure }

def result (call : Call) (script : Script) : Except Error Selection :=
  (call.perform script).1

def after (script : Script) (call : Call) : Script :=
  (call.perform script).2

/-- What is stored under the key of a call when it succeeds. -/
def changed (call : Call) (script : Script) : Selection :=
  call.operation.change (script.selections.get call.key) call.now

theorem program_eq (call : Call) :
    call.program =
      modify call.key (call.operation.change · call.now) := by
  unfold program
  cases call.operation <;> rfl

/-- A call succeeds and stores the changed selection, or it meets a failure of
the store and leaves all selections as they are. -/
theorem perform_cases (call : Call) (script : Script) :
    (call.loadFailure = none ∧ call.storeFailure = none ∧
      call.result script = .ok (call.changed script) ∧
      (call.after script).selections =
        script.selections.put call.key (call.changed script)) ∨
    ∃ failure,
      (call.loadFailure = some failure ∨ call.storeFailure = some failure) ∧
      call.result script = .error (.engine failure) ∧
      (call.after script).selections = script.selections := by
  obtain ⟨key, operation, now, loadFailure, storeFailure⟩ := call
  simp only [result, after, perform, program_eq]
  cases loadFailure with
  | some failure => exact .inr ⟨failure, .inl rfl, rfl, rfl⟩
  | none =>
      cases storeFailure with
      | some failure => exact .inr ⟨failure, .inr rfl, rfl, rfl⟩
      | none => exact .inl ⟨rfl, rfl, rfl, rfl⟩

/-- A call succeeds exactly when the store does not fail. -/
theorem isOk_result_iff (call : Call) (script : Script) :
    (call.result script).isOk = true ↔
      call.loadFailure = none ∧ call.storeFailure = none := by
  rcases call.perform_cases script with
    ⟨loads, stores, result_eq, -⟩ | ⟨failure, fails, result_eq, -⟩
  · simp [result_eq, loads, stores, Except.isOk, Except.toBool]
  · rcases fails with fails | fails <;>
      simp [result_eq, fails, Except.isOk, Except.toBool]

/-- A call that succeeds changes what is stored under its key, and nothing else
is ever changed. -/
theorem get_after (call : Call) (script : Script) (key : SelectionKey) :
    (call.after script).selections.get key =
      if call.key = key ∧ (call.result script).isOk = true then
        call.changed script
      else script.selections.get key := by
  rcases call.perform_cases script with
    ⟨-, -, result_eq, selections_eq⟩ | ⟨failure, -, result_eq, selections_eq⟩
  · rw [selections_eq, SelectionMap.get_put, result_eq]
    simp [Except.isOk, Except.toBool, eq_comm]
  · rw [selections_eq, result_eq]
    simp [Except.isOk, Except.toBool]

/-- A call that succeeds gives what it has stored. -/
theorem get_after_of_result {call : Call} {script : Script}
    {selection : Selection} (succeeds : call.result script = .ok selection) :
    (call.after script).selections.get call.key = selection := by
  rcases call.perform_cases script with
    ⟨-, -, result_eq, selections_eq⟩ | ⟨failure, -, result_eq, -⟩
  · rw [selections_eq, SelectionMap.get_put, if_pos rfl]
    exact Except.ok.inj (result_eq.symm.trans succeeds)
  · simp [result_eq] at succeeds

/-- A call that fails, or is on another key, changes nothing under a key. -/
theorem get_after_of_skipped {call : Call} {script : Script}
    {key : SelectionKey}
    (skipped : call.key ≠ key ∨ (call.result script).isOk = false) :
    (call.after script).selections.get key = script.selections.get key := by
  rw [get_after, if_neg]
  rintro ⟨same, done⟩
  rcases skipped with other | failed
  · exact other same
  · simp [failed] at done

variable {call : Call} {script : Script} {set : Finset String}

/-- What a call leaves under its key, where a set stood. -/
theorem represents_after
    (represents : (script.selections.get call.key).Represents set)
    (done : (call.result script).isOk = true) :
    ((call.after script).selections.get call.key).Represents
      (call.operation.apply set) := by
  rw [get_after, if_pos ⟨rfl, done⟩]
  exact call.operation.represents_change represents call.now

/-- A row that is to be selected and unselected ends unselected. -/
theorem notMem_ids_after {selected unselected : List String}
    (represents : (script.selections.get call.key).Represents set)
    (sets : call.operation = .set selected unselected)
    (done : (call.result script).isOk = true) {id : String}
    (member : id ∈ unselected) :
    id ∉ ((call.after script).selections.get call.key).ids := by
  rw [(represents_after represents done).mem_iff, sets]
  simp [Operation.apply, member]

/-- Setting the same rows again leaves the rows as they are. -/
theorem ids_after_again {selected unselected : List String}
    (represents : (script.selections.get call.key).Represents set)
    (sets : call.operation = .set selected unselected)
    (done : (call.result script).isOk = true) {again : Call}
    (key_eq : again.key = call.key)
    (operation_eq : again.operation = call.operation) :
    ((again.after (call.after script)).selections.get call.key).ids =
      ((call.after script).selections.get call.key).ids := by
  have first := represents_after represents done
  by_cases repeated : (again.result (call.after script)).isOk = true
  · have second := represents_after (key_eq.symm ▸ first) repeated
    rw [operation_eq, sets, Operation.apply_set_apply_set, ← sets,
      key_eq] at second
    exact second.ids_eq first
  · rw [get_after_of_skipped (.inr (Bool.eq_false_iff.mpr repeated))]

end Call

/-- What some calls in a row leave behind. -/
def afterAll (calls : List Call) (script : Script) : Script :=
  calls.foldl Call.after script

/-- Those of some calls in a row that succeed on a key. -/
def succeeded (key : SelectionKey) : List Call → Script → List Call
  | [], _ => []
  | call :: rest, script =>
      let later := succeeded key rest (call.after script)
      if call.key = key ∧ (call.result script).isOk = true then call :: later
      else later

/-- What calls make of a set, one after another. -/
def applyAll (set : Finset String) (calls : List Call) : Finset String :=
  calls.foldl (fun set call => call.operation.apply set) set

/-- Under every key stands the set that the calls on this key that succeeded
make of the set that was there. -/
theorem represents_afterAll (calls : List Call) {script : Script}
    {key : SelectionKey} {set : Finset String}
    (represents : (script.selections.get key).Represents set) :
    ((afterAll calls script).selections.get key).Represents
      (applyAll set (succeeded key calls script)) := by
  induction calls generalizing script set with
  | nil => exact represents
  | cons call rest ih =>
      have stored := call.get_after script key
      unfold succeeded
      split
      · rename_i done
        refine ih ?_
        rw [stored, if_pos done]
        obtain ⟨rfl, -⟩ := done
        exact call.operation.represents_change represents call.now
      · rename_i skipped
        refine ih ?_
        rw [stored, if_neg skipped]
        exact represents

/-- The time of the last change is set by every call that succeeds. -/
theorem isSome_changed_afterAll_iff (calls : List Call) (script : Script)
    (key : SelectionKey) :
    ((afterAll calls script).selections.get key).changed.isSome = true ↔
      (script.selections.get key).changed.isSome = true ∨
        succeeded key calls script ≠ [] := by
  induction calls generalizing script with
  | nil => simp [afterAll, succeeded]
  | cons call rest ih =>
      have stored := call.get_after script key
      have unfolded : afterAll (call :: rest) script =
          afterAll rest (call.after script) :=
        rfl
      rw [unfolded, ih, stored, succeeded]
      split
      · simp [Call.changed, Operation.changed_change]
      · simp

/-- The stored selections are a map from keys to sets.  After any calls in any
order, with any failures of the store, the set under a key is what the calls on
this key that succeeded make of the empty set, and it has a time of change when
there was such a call.  The next call succeeds if the store does not fail, gives
what is then stored, and changes nothing else.  Selecting and unselecting the
same rows again changes no set, and a row that is in both lists ends
unselected. -/
theorem afterAll_represents_applyAll (calls : List Call) (key : SelectionKey) :
    let script := afterAll calls {}
    (script.selections.get key).Represents
        (applyAll ∅ (succeeded key calls {})) ∧
      ((script.selections.get key).changed.isSome = true ↔
        succeeded key calls {} ≠ []) ∧
      ∀ call : Call,
        let next := call.after script
        ((call.result script).isOk = true ↔
          call.loadFailure = none ∧ call.storeFailure = none) ∧
        (∀ selection, call.result script = .ok selection →
          next.selections.get call.key = selection) ∧
        (call.key ≠ key ∨ (call.result script).isOk = false →
          next.selections.get key = script.selections.get key) ∧
        ∀ selected unselected, call.operation = .set selected unselected →
          (call.result script).isOk = true →
          (∀ id ∈ selected, id ∈ unselected →
            id ∉ (next.selections.get call.key).ids) ∧
          ∀ again : Call, again.key = call.key →
            again.operation = call.operation →
            ((again.after next).selections.get call.key).ids =
              (next.selections.get call.key).ids := by
  intro script
  have represents (key : SelectionKey) :
      (script.selections.get key).Represents
        (applyAll ∅ (succeeded key calls {})) :=
    represents_afterAll calls represents_empty
  refine ⟨represents key, ?_, fun call => ?_⟩
  · rw [isSome_changed_afterAll_iff]
    simp [SelectionMap.get_nil]
  refine ⟨call.isOk_result_iff script, fun _ => Call.get_after_of_result,
    Call.get_after_of_skipped, ?_⟩
  intro selected unselected sets done
  constructor
  · intro id _ member
    exact Call.notMem_ids_after (represents call.key) sets done member
  · intro again key_eq operation_eq
    exact Call.ids_after_again (represents call.key) sets done key_eq
      operation_eq

end DataGrid.Selection
