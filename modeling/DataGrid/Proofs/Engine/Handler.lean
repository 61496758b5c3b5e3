import DataGrid.Proofs.Engine.Writes
import DataGrid.Selection.Service

/-!
# Programs run by a handler

What a program comes to when a handler answers its questions, step by step, and
what becomes of the selections that the handler keeps.
-/

namespace DataGrid

namespace Program

variable {σ α β : Type} (handler : Handler σ)

theorem run_bind (program : Program α) (next : α → Program β) (state : σ) :
    (program >>= next).run handler state =
      match program.run handler state with
      | (.ok value, later) => (next value).run handler later
      | (.error error, later) => (.error error, later) := by
  change (program.bind next).run handler state = _
  induction program generalizing state with
  | done value => rfl
  | fail error => rfl
  | ask query answered ih => exact ih _ _

variable {handler}

/-- Two programs in a row succeed when the first does, and the second does with
its value where the first leaves off. -/
theorem run_bind_eq_ok_iff {program : Program α} {next : α → Program β}
    {state final : σ} {result : β} :
    (program >>= next).run handler state = (.ok result, final) ↔
      ∃ value middle, program.run handler state = (.ok value, middle) ∧
        (next value).run handler middle = (.ok result, final) := by
  rw [run_bind]
  rcases program.run handler state with ⟨error | value, middle⟩
  · simp
  · constructor
    · intro done
      exact ⟨value, middle, rfl, done⟩
    · rintro ⟨_, _, ⟨rfl, rfl⟩, done⟩
      exact done

theorem run_pure_eq_ok_iff {value result : α} {state final : σ} :
    (pure value : Program α).run handler state = (.ok result, final) ↔
      value = result ∧ state = final := by
  change (Except.ok value, state) = _ ↔ _
  simp

/-- A step without a question leaves the state as it is. -/
theorem run_liftM_bind_eq_ok_iff {step : Except Error α}
    {next : α → Program β} {state final : σ} {result : β} :
    (liftM step >>= next).run handler state = (.ok result, final) ↔
      ∃ value, step = .ok value ∧
        (next value).run handler state = (.ok result, final) := by
  cases step with
  | ok value =>
      change (next value).run handler state = _ ↔ _
      simp
  | error error =>
      change (Except.error error, state) = _ ↔ _
      simp

theorem run_perform (query : Query) (state : σ) :
    (perform query).run handler state =
      (needed (handler query state).1, (handler query state).2) := by
  unfold perform
  rw [run]
  dsimp only
  cases (handler query state).1 with
  | ok value => rfl
  | error failure => rfl

/-- A question is answered before the program goes on. -/
theorem run_perform_bind_eq_ok_iff {query : Query}
    {next : query.Result → Program β} {state final : σ} {result : β} :
    (perform query >>= next).run handler state = (.ok result, final) ↔
      ∃ value, (handler query state).1 = .ok value ∧
        (next value).run handler (handler query state).2 =
          (.ok result, final) := by
  rw [run_bind, run_perform]
  cases (handler query state).1 with
  | ok value => simp
  | error failure => simp

end Program

/-- A handler keeps selections: what it loads is what it holds, what it stores
is what it holds then, and nothing else changes what it holds. -/
structure Keeps {σ : Type} (handler : Program.Handler σ)
    (held : σ → SelectionKey → Selection) : Prop where
  loads : ∀ key state selection,
    (handler (.loadSelection key) state).1 = .ok selection →
      selection = held state key
  stores : ∀ key selection state,
    (handler (.storeSelection key selection) state).1 = .ok () →
      held (handler (.storeSelection key selection) state).2 key = selection
  keeps : ∀ query state, ¬ query.Stores →
    held (handler query state).2 = held state

namespace Keeps

open Program

variable {σ α : Type} {handler : Program.Handler σ}
  {held : σ → SelectionKey → Selection}

/-- A program that only looks leaves the selections as they are. -/
theorem held_run (keeps : Keeps handler held) {program : Program α}
    (looks : Asks Query.Looks program) (state : σ) :
    held (program.run handler state).2 = held state := by
  induction program generalizing state with
  | done value => rfl
  | fail error => rfl
  | ask query next ih =>
      -- A run of the program begins with its question, and what is behind it
      -- is a run of the rest.
      have first : query.Looks := by
        have runs := runs_transcript handler (.ask query next) state
        exact looks _ _ runs _ List.mem_cons_self
      have rest (answer : query.Answer) : Asks Query.Looks (next answer) :=
        fun events outcome runs event member =>
          looks _ _ (.ask query next answer events outcome runs) event
            (List.mem_cons_of_mem _ member)
      exact (ih _ (rest _) _).trans (keeps.keeps query state first.2)

/-- A change that succeeds has read what is held under the key, and gives what
is held there then. -/
theorem run_modify (keeps : Keeps handler held) {key : SelectionKey}
    {change : Selection → Selection} {state final : σ} {selection : Selection}
    (done : (Selection.modify key change).run handler state =
      (.ok selection, final)) :
    selection = change (held state key) ∧ held final key = selection := by
  obtain ⟨loaded, loads, done⟩ := run_perform_bind_eq_ok_iff.mp done
  obtain ⟨_, stores, done⟩ := run_perform_bind_eq_ok_iff.mp done
  obtain ⟨rfl, rfl⟩ := run_pure_eq_ok_iff.mp done
  rw [← keeps.loads key state loaded loads]
  exact ⟨rfl, keeps.stores key _ _ stores⟩

end Keeps

end DataGrid
