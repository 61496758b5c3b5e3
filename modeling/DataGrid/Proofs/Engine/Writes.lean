import DataGrid.Proofs.Engine.Run

/-!
# Programs that write

A program writes by executing a statement or by storing a selection.  Programs
that look first and write with their last question have written nothing when
they fail.
-/

namespace DataGrid

namespace Query

/-- The question is to execute a statement that writes. -/
def Executes : Query → Prop
  | execute _ => True
  | _ => False

/-- The question is to store a selection. -/
def Stores : Query → Prop
  | storeSelection _ _ => True
  | _ => False

/-- The question leaves the engine and the store as they are. -/
def Looks (query : Query) : Prop :=
  ¬ query.Executes ∧ ¬ query.Stores

theorem looks_fetch (statement : Sql.Statement) (offset : Int)
    (limit : Option Int) : (fetch statement offset limit).Looks :=
  ⟨id, id⟩

end Query

namespace Event

/-- The event is a write that succeeded. -/
def wrote : Event → Bool
  | ⟨.execute _, .ok _⟩ => true
  | ⟨.storeSelection _ _, .ok _⟩ => true
  | _ => false

theorem wrote_eq_false_of_looks {event : Event}
    (looks : event.query.Looks) : event.wrote = false := by
  obtain ⟨query, answer⟩ := event
  cases query with
  | execute statement => exact absurd trivial looks.1
  | storeSelection key selection => exact absurd trivial looks.2
  | _ => rfl

/-- An event whose answer is a failure is no successful write. -/
theorem wrote_eq_false_of_failure (query : Query) (failure : EngineFailure) :
    wrote ⟨query, .error failure⟩ = false := by
  cases query <;> rfl

end Event

/-- How many writes among some events succeeded. -/
def writeCount (events : List Event) : Nat :=
  events.countP Event.wrote

@[simp]
theorem writeCount_append (first rest : List Event) :
    writeCount (first ++ rest) = writeCount first + writeCount rest :=
  List.countP_append

theorem writeCount_eq_zero {events : List Event}
    (looks : ∀ event ∈ events, event.query.Looks) : writeCount events = 0 := by
  refine List.countP_eq_zero.mpr fun event member => ?_
  simp [Event.wrote_eq_false_of_looks (looks event member)]

namespace Program

variable {α β : Type} {permitted : Query → Prop} {wanted : β → Prop}

/-- A program looks, and writes at most once, as far as it is permitted.  When
it fails it has written nothing, and otherwise it ends with a wanted value. -/
structure WritesLast (permitted : Query → Prop) (wanted : α → Prop)
    (program : Program α) : Prop where
  asks : Asks (fun query => query.Looks ∨ permitted query) program
  atMostOnce : ∀ events outcome, Runs program events outcome →
    writeCount events ≤ 1
  nothing : ∀ events error, Runs program events (.error error) →
    writeCount events = 0
  yields : ∀ events value, Runs program events (.ok value) → wanted value

theorem writesLast_pure {value : β} (good : wanted value) :
    WritesLast permitted wanted (pure value) where
  asks := asks_pure _ value
  atMostOnce events outcome runs := by
    obtain ⟨rfl, -⟩ := (runs_pure_iff _ _ _).mp runs
    exact Nat.zero_le 1
  nothing events error runs := by
    obtain ⟨rfl, -⟩ := (runs_pure_iff _ _ _).mp runs
    rfl
  yields events other runs := by
    obtain ⟨-, same⟩ := (runs_pure_iff _ _ _).mp runs
    obtain rfl := Except.ok.inj same
    exact good

theorem writesLast_fail (error : Error) :
    WritesLast permitted wanted (fail error) where
  asks := asks_fail _ error
  atMostOnce events outcome runs := by
    obtain ⟨rfl, -⟩ := (runs_fail_iff _ _ _).mp runs
    exact Nat.zero_le 1
  nothing events other runs := by
    obtain ⟨rfl, -⟩ := (runs_fail_iff _ _ _).mp runs
    rfl
  yields events value runs := by
    obtain ⟨-, impossible⟩ := (runs_fail_iff _ _ _).mp runs
    simp at impossible

/-- One question writes once, unless it is answered with a failure. -/
theorem writesLast_perform {query : Query} (allowed : permitted query) :
    WritesLast permitted (fun _ => True) (perform query) where
  asks := asks_perform (.inr allowed)
  atMostOnce events outcome runs := by
    obtain ⟨answer, rfl, -⟩ := (runs_perform_iff _ _ _).mp runs
    exact List.countP_le_length
  nothing events error runs := by
    obtain ⟨answer, rfl, ends⟩ := (runs_perform_iff _ _ _).mp runs
    cases answer with
    | ok result => simp at ends
    | error failure => simp [writeCount, Event.wrote_eq_false_of_failure]
  yields _ _ _ := trivial

/-- Whatever only looks may stand in front of a write. -/
theorem writesLast_bind {program : Program α} {next : α → Program β}
    (looks : Asks Query.Looks program)
    (rest : ∀ value, WritesLast permitted wanted (next value)) :
    WritesLast permitted wanted (program >>= next) where
  asks :=
    asks_bind (asks_mono looks fun _ => .inl) fun value => (rest value).asks
  atMostOnce events outcome runs := by
    rcases (runs_bind_iff _ _ _ _).mp runs with
      ⟨error, fails, -⟩ | ⟨value, early, late, rfl, succeeds, continues⟩
    · have none := writeCount_eq_zero (looks events _ fails)
      omega
    · have none := writeCount_eq_zero (looks early _ succeeds)
      have once := (rest value).atMostOnce late outcome continues
      rw [writeCount_append]
      omega
  nothing events error runs := by
    rcases (runs_bind_iff _ _ _ _).mp runs with
      ⟨_, fails, -⟩ | ⟨value, early, late, rfl, succeeds, continues⟩
    · exact writeCount_eq_zero (looks events _ fails)
    · have none := writeCount_eq_zero (looks early _ succeeds)
      have nothing := (rest value).nothing late error continues
      rw [writeCount_append]
      omega
  yields events value runs := by
    rcases (runs_bind_iff _ _ _ _).mp runs with
      ⟨error, -, impossible⟩ | ⟨middle, early, late, -, -, continues⟩
    · simp at impossible
    · exact (rest middle).yields late value continues

/-- Behind a write a value may be changed, but nothing may fail. -/
theorem writesLast_bind_pure {program : Program α} {found : α → Prop}
    {change : α → β} (writes : WritesLast permitted found program)
    (good : ∀ value, found value → wanted (change value)) :
    WritesLast permitted wanted
      (program >>= fun value => pure (change value)) where
  asks := asks_bind writes.asks fun value => asks_pure _ _
  atMostOnce events outcome runs := by
    obtain ⟨result, runs, -⟩ := (runs_bind_pure_iff _ _ _ _).mp runs
    exact writes.atMostOnce events result runs
  nothing events error runs := by
    obtain ⟨result, runs, ends⟩ := (runs_bind_pure_iff _ _ _ _).mp runs
    cases result with
    | ok value => simp [Except.map] at ends
    | error failure => exact writes.nothing events failure runs
  yields events value runs := by
    obtain ⟨result, first, ends⟩ := (runs_bind_pure_iff _ _ _ _).mp runs
    cases result with
    | ok found =>
        obtain rfl := Except.ok.inj ends
        exact good found (writes.yields events found first)
    | error failure => simp [Except.map] at ends

end Program

end DataGrid
