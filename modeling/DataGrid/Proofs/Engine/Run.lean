import DataGrid.Engine.Program

/-!
# Runs of programs

A run is what can be seen of a program from outside: the questions that it
asked, the answers that it was given, and how it ended.  Nothing is assumed of
the answers, so that what holds of every run holds with every database.
-/

namespace DataGrid

/-- A question with the answer that it was given. -/
structure Event where
  query : Query
  answer : query.Answer

/-- An event that is not among the first ones is among those behind them. -/
theorem Event.split_behind {first rest before after : List Event}
    {event : Event} (equal : first ++ rest = before ++ event :: after)
    (notFirst : event ∉ first) :
    ∃ between, before = first ++ between ∧
      rest = between ++ event :: after := by
  rcases List.append_eq_append_iff.mp equal with
    ⟨between, before_eq, rest_eq⟩ | ⟨between, first_eq, rest_eq⟩
  · exact ⟨between, before_eq, rest_eq⟩
  · cases between with
    | nil =>
        refine ⟨[], ?_, by simpa using rest_eq.symm⟩
        simpa using first_eq.symm
    | cons head tail =>
        obtain ⟨rfl, -⟩ := List.cons.inj rest_eq
        simp [first_eq] at notFirst

theorem Event.eq_of_split_singleton {before after : List Event}
    {event only : Event} (equal : before ++ event :: after = [only]) :
    before = [] ∧ event = only := by
  cases before with
  | nil => exact ⟨rfl, (List.cons.inj equal).1⟩
  | cons first rest => simp at equal

namespace Program

variable {α β : Type}

/-- What a program makes of an answer that it needs. -/
def needed : Except EngineFailure α → Except Error α
  | .ok result => .ok result
  | .error failure => .error (.engine failure)

@[simp]
theorem needed_ok (result : α) : needed (.ok result) = .ok result :=
  rfl

@[simp]
theorem needed_error (failure : EngineFailure) :
    needed (.error failure : Except EngineFailure α) =
      .error (.engine failure) :=
  rfl

/-- A program asks the questions of some events in their order, is given their
answers, and ends with an outcome. -/
inductive Runs : Program α → List Event → Except Error α → Prop
  | done (value : α) : Runs (.done value) [] (.ok value)
  | fail (error : Error) : Runs (.fail error) [] (.error error)
  | ask (query : Query) (next : query.Answer → Program α)
      (answer : query.Answer) (events : List Event) (outcome : Except Error α)
      (rest : Runs (next answer) events outcome) :
      Runs (.ask query next) (⟨query, answer⟩ :: events) outcome

theorem runs_done_iff (value : α) (events : List Event)
    (outcome : Except Error α) :
    Runs (.done value) events outcome ↔ events = [] ∧ outcome = .ok value := by
  constructor
  · intro runs
    cases runs
    exact ⟨rfl, rfl⟩
  · rintro ⟨rfl, rfl⟩
    exact .done value

theorem runs_fail_iff (error : Error) (events : List Event)
    (outcome : Except Error α) :
    Runs (.fail error) events outcome ↔
      events = [] ∧ outcome = .error error := by
  constructor
  · intro runs
    cases runs
    exact ⟨rfl, rfl⟩
  · rintro ⟨rfl, rfl⟩
    exact .fail error

theorem runs_ask_iff (query : Query) (next : query.Answer → Program α)
    (events : List Event) (outcome : Except Error α) :
    Runs (.ask query next) events outcome ↔
      ∃ answer rest, events = ⟨query, answer⟩ :: rest ∧
        Runs (next answer) rest outcome := by
  constructor
  · intro runs
    cases runs with
    | ask _ _ answer rest _ continues => exact ⟨answer, rest, rfl, continues⟩
  · rintro ⟨answer, rest, rfl, continues⟩
    exact .ask query next answer rest outcome continues

/-- The answers decide what a program does: two runs with the same events, as
far as both go, are the same run. -/
theorem Runs.deterministic {program : Program α}
    {first other rest more : List Event} {outcome result : Except Error α}
    (runs : Runs program first outcome) (repeats : Runs program other result)
    (equal : first ++ rest = other ++ more) :
    outcome = result ∧ rest = more := by
  induction runs generalizing other with
  | done value =>
      obtain ⟨rfl, rfl⟩ := (runs_done_iff _ _ _).mp repeats
      exact ⟨rfl, equal⟩
  | fail error =>
      obtain ⟨rfl, rfl⟩ := (runs_fail_iff _ _ _).mp repeats
      exact ⟨rfl, equal⟩
  | ask query next answer events outcome _ ih =>
      obtain ⟨_, later, rfl, continues⟩ :=
        (runs_ask_iff _ _ _ _).mp repeats
      obtain ⟨⟨⟩, tails⟩ := List.cons.inj equal
      exact ih continues tails

@[simp]
theorem runs_pure_iff (value : α) (events : List Event)
    (outcome : Except Error α) :
    Runs (pure value) events outcome ↔ events = [] ∧ outcome = .ok value :=
  runs_done_iff value events outcome

theorem runs_ofExcept_iff (result : Except Error α) (events : List Event)
    (outcome : Except Error α) :
    Runs (ofExcept result) events outcome ↔
      events = [] ∧ outcome = result := by
  cases result with
  | ok value => exact runs_done_iff value events outcome
  | error error => exact runs_fail_iff error events outcome

/-- A question is asked once, and a failure of the engine ends the program. -/
theorem runs_perform_iff (query : Query) (events : List Event)
    (outcome : Except Error query.Result) :
    Runs (perform query) events outcome ↔
      ∃ answer : query.Answer, events = [⟨query, answer⟩] ∧
        outcome = needed answer := by
  rw [perform, runs_ask_iff]
  apply exists_congr
  intro answer
  cases answer with
  | ok result => simp [runs_done_iff, and_left_comm]
  | error failure => simp [runs_fail_iff, and_left_comm]

/-- A run of two programs in a row is a run of the first that fails, or one
that succeeds followed by a run of the second. -/
theorem runs_bind_iff (program : Program α) (next : α → Program β)
    (events : List Event) (outcome : Except Error β) :
    Runs (program >>= next) events outcome ↔
      (∃ error, Runs program events (.error error) ∧
        outcome = .error error) ∨
      ∃ value first rest, events = first ++ rest ∧
        Runs program first (.ok value) ∧ Runs (next value) rest outcome := by
  change Runs (program.bind next) events outcome ↔ _
  induction program generalizing events with
  | done value =>
      simp only [bind, runs_done_iff]
      constructor
      · intro continues
        exact .inr ⟨value, [], events, rfl, ⟨rfl, rfl⟩, continues⟩
      · rintro (⟨error, ⟨-, impossible⟩, -⟩ |
          ⟨_, _, rest, rfl, ⟨rfl, same⟩, continues⟩)
        · simp at impossible
        · obtain rfl := Except.ok.inj same
          exact continues
  | fail error =>
      simp only [bind, runs_fail_iff]
      constructor
      · rintro ⟨rfl, rfl⟩
        exact .inl ⟨error, ⟨rfl, rfl⟩, rfl⟩
      · rintro (⟨_, ⟨rfl, same⟩, rfl⟩ | ⟨_, _, _, -, ⟨-, impossible⟩, -⟩)
        · obtain rfl := Except.error.inj same
          exact ⟨rfl, rfl⟩
        · simp at impossible
  | ask query answered ih =>
      simp only [bind, runs_ask_iff, ih]
      constructor
      · rintro ⟨answer, rest, rfl, ⟨error, fails, rfl⟩ |
          ⟨value, first, last, rfl, succeeds, continues⟩⟩
        · exact .inl ⟨error, ⟨answer, rest, rfl, fails⟩, rfl⟩
        · exact .inr ⟨value, _ :: first, last, rfl,
            ⟨answer, first, rfl, succeeds⟩, continues⟩
      · rintro (⟨error, ⟨answer, rest, rfl, fails⟩, rfl⟩ |
          ⟨value, _, last, rfl, ⟨answer, first, rfl, succeeds⟩, continues⟩)
        · exact ⟨answer, rest, rfl, .inl ⟨error, fails, rfl⟩⟩
        · exact ⟨answer, first ++ last, rfl,
            .inr ⟨value, first, last, rfl, succeeds, continues⟩⟩

@[simp]
theorem runs_liftM_iff (result : Except Error α) (events : List Event)
    (outcome : Except Error α) :
    Runs (liftM result) events outcome ↔ events = [] ∧ outcome = result :=
  runs_ofExcept_iff result events outcome

/-- A step without a question leaves the questions to the steps behind it. -/
theorem runs_liftM_bind_iff (result : Except Error α)
    (next : α → Program β) (events : List Event)
    (outcome : Except Error β) :
    Runs (liftM result >>= next) events outcome ↔
      (∃ error, result = .error error ∧ events = [] ∧
        outcome = .error error) ∨
      ∃ value, result = .ok value ∧ Runs (next value) events outcome := by
  cases result with
  | ok value =>
      change Runs (next value) events outcome ↔ _
      simp
  | error error =>
      change Runs (.fail error) events outcome ↔ _
      simp [runs_fail_iff]

theorem runs_liftM_bind_iff_of_ok {result : Except Error α} {value : α}
    (succeeds : result = .ok value) (next : α → Program β)
    (events : List Event) (outcome : Except Error β) :
    Runs (liftM result >>= next) events outcome ↔
      Runs (next value) events outcome := by
  rw [runs_liftM_bind_iff, succeeds]
  simp

theorem Runs.of_liftM_error {result : Except Error α} {next : α → Program β}
    {events : List Event} {outcome : Except Error β} {error : Error}
    (runs : Runs (liftM result >>= next) events outcome)
    (fails : result = .error error) : events = [] ∧ outcome = .error error := by
  subst fails
  simpa [runs_liftM_bind_iff] using runs

theorem Runs.of_liftM_ok {result : Except Error α} {next : α → Program β}
    {events : List Event} {outcome : Except Error β} {value : α}
    (runs : Runs (liftM result >>= next) events outcome)
    (succeeds : result = .ok value) : Runs (next value) events outcome :=
  (runs_liftM_bind_iff_of_ok succeeds _ _ _).mp runs

/-- A verdict on the value of a program asks nothing. -/
theorem runs_bind_liftM_iff (program : Program α) (judge : α → Except Error β)
    (events : List Event) (outcome : Except Error β) :
    Runs (program >>= fun value => liftM (judge value)) events outcome ↔
      ∃ result, Runs program events result ∧ outcome = result >>= judge := by
  rw [runs_bind_iff]
  constructor
  · rintro (⟨error, fails, rfl⟩ | ⟨value, first, rest, rfl, runs, ends⟩)
    · exact ⟨.error error, fails, rfl⟩
    · obtain ⟨rfl, rfl⟩ := (runs_liftM_iff _ _ _).mp ends
      exact ⟨.ok value, by simpa using runs, rfl⟩
  · rintro ⟨result, runs, rfl⟩
    cases result with
    | error error => exact .inl ⟨error, runs, rfl⟩
    | ok value =>
        exact .inr ⟨value, events, [], by simp, runs,
          (runs_liftM_iff _ _ _).mpr ⟨rfl, rfl⟩⟩

theorem runs_bind_pure_iff (program : Program α) (change : α → β)
    (events : List Event) (outcome : Except Error β) :
    Runs (program >>= fun value => pure (change value)) events outcome ↔
      ∃ result, Runs program events result ∧
        outcome = result.map change := by
  refine (runs_bind_liftM_iff program (fun value => .ok (change value)) events
    outcome).trans ?_
  refine exists_congr fun result => and_congr_right fun _ => ?_
  cases result <;> rfl

/-- A failure of the engine ends a program; otherwise it goes on with what it
has been answered. -/
theorem runs_perform_bind_iff (query : Query)
    (next : query.Result → Program α) (events : List Event)
    (outcome : Except Error α) :
    Runs (perform query >>= next) events outcome ↔
      (∃ failure, events = [⟨query, .error failure⟩] ∧
        outcome = .error (.engine failure)) ∨
      ∃ result rest, events = ⟨query, .ok result⟩ :: rest ∧
        Runs (next result) rest outcome := by
  change Runs (.ask query _) events outcome ↔ _
  rw [runs_ask_iff]
  constructor
  · rintro ⟨failure | result, rest, rfl, continues⟩
    · obtain ⟨rfl, rfl⟩ := (runs_fail_iff _ _ _).mp continues
      exact .inl ⟨failure, rfl, rfl⟩
    · exact .inr ⟨result, rest, rfl, continues⟩
  · rintro (⟨failure, rfl, rfl⟩ | ⟨result, rest, rfl, continues⟩)
    · exact ⟨.error failure, [], rfl, .fail _⟩
    · exact ⟨.ok result, rest, rfl, continues⟩

theorem runs_perform_bind_pure_iff (query : Query)
    (change : query.Result → α) (events : List Event)
    (outcome : Except Error α) :
    Runs (perform query >>= fun result => pure (change result)) events
        outcome ↔
      ∃ answer : query.Answer, events = [⟨query, answer⟩] ∧
        outcome = (needed answer).map change := by
  change Runs (.ask query _) events outcome ↔ _
  rw [runs_ask_iff]
  apply exists_congr
  intro answer
  cases answer with
  | ok result =>
      change (∃ rest, _ ∧ Runs (.done _) rest outcome) ↔ _
      simp [runs_done_iff, Except.map, and_left_comm]
  | error failure =>
      change (∃ rest, _ ∧ Runs (.fail _) rest outcome) ↔ _
      simp [runs_fail_iff, Except.map, and_left_comm]

/-- A program ends with a value, whatever it is answered. -/
def NeverFails (program : Program α) : Prop :=
  ∀ events error, ¬ Runs program events (.error error)

theorem neverFails_pure (value : α) : NeverFails (pure value) := by
  intro events error runs
  obtain ⟨-, impossible⟩ := (runs_pure_iff _ _ _).mp runs
  cases impossible

theorem neverFails_attempt (query : Query) : NeverFails (attempt query) := by
  intro events error runs
  obtain ⟨answer, rest, -, ends⟩ := (runs_ask_iff _ _ _ _).mp runs
  exact neverFails_pure answer rest error ends

theorem neverFails_bind {program : Program α} {next : α → Program β}
    (first : NeverFails program) (rest : ∀ value, NeverFails (next value)) :
    NeverFails (program >>= next) := by
  intro events error runs
  rcases (runs_bind_iff _ _ _ _).mp runs with
    ⟨failure, fails, -⟩ | ⟨value, _, late, -, -, continues⟩
  · exact first events failure fails
  · exact rest value late error continues

/-- Behind a program that never fails there is always a run of the next. -/
theorem NeverFails.runs_bind_iff {program : Program α}
    (succeeds : NeverFails program) (next : α → Program β)
    (events : List Event) (outcome : Except Error β) :
    Runs (program >>= next) events outcome ↔
      ∃ value first rest, events = first ++ rest ∧
        Runs program first (.ok value) ∧ Runs (next value) rest outcome := by
  rw [Program.runs_bind_iff]
  refine or_iff_right ?_
  rintro ⟨error, fails, -⟩
  exact succeeds events error fails

/-- Every question that a program asks is permitted, whatever it is
answered. -/
def Asks (permitted : Query → Prop) (program : Program α) : Prop :=
  ∀ events outcome, Runs program events outcome →
    ∀ event ∈ events, permitted event.query

theorem asks_pure (permitted : Query → Prop) (value : α) :
    Asks permitted (pure value : Program α) := by
  intro events outcome runs event member
  obtain ⟨rfl, -⟩ := (runs_pure_iff _ _ _).mp runs
  simp at member

theorem asks_fail (permitted : Query → Prop) (error : Error) :
    Asks permitted (fail error : Program α) := by
  intro events outcome runs event member
  obtain ⟨rfl, -⟩ := (runs_fail_iff _ _ _).mp runs
  simp at member

theorem asks_liftM (permitted : Query → Prop) (result : Except Error α) :
    Asks permitted (liftM result : Program α) := by
  intro events outcome runs event member
  obtain ⟨rfl, -⟩ := (runs_liftM_iff _ _ _).mp runs
  simp at member

theorem asks_perform {permitted : Query → Prop} {query : Query}
    (allowed : permitted query) : Asks permitted (perform query) := by
  intro events outcome runs event member
  obtain ⟨answer, rfl, -⟩ := (runs_perform_iff _ _ _).mp runs
  obtain rfl := List.mem_singleton.mp member
  exact allowed

theorem asks_attempt {permitted : Query → Prop} {query : Query}
    (allowed : permitted query) : Asks permitted (attempt query) := by
  intro events outcome runs event member
  obtain ⟨answer, rest, rfl, ends⟩ := (runs_ask_iff _ _ _ _).mp runs
  obtain ⟨rfl, -⟩ := (runs_done_iff _ _ _).mp ends
  obtain rfl := List.mem_singleton.mp member
  exact allowed

theorem asks_bind {permitted : Query → Prop} {program : Program α}
    {next : α → Program β} (first : Asks permitted program)
    (rest : ∀ value, Asks permitted (next value)) :
    Asks permitted (program >>= next) := by
  intro events outcome runs event member
  rcases (runs_bind_iff _ _ _ _).mp runs with
    ⟨error, fails, -⟩ |
    ⟨value, early, late, rfl, succeeds, continues⟩
  · exact first _ _ fails event member
  · rcases List.mem_append.mp member with inEarly | inLate
    · exact first _ _ succeeds event inEarly
    · exact rest value _ _ continues event inLate

theorem asks_mono {permitted allowed : Query → Prop} {program : Program α}
    (asks : Asks permitted program)
    (weaker : ∀ query, permitted query → allowed query) :
    Asks allowed program :=
  fun events outcome runs event member =>
    weaker _ (asks events outcome runs event member)

/-- The value of an outcome whose failure is made into a value, too. -/
def recovered (handle : Error → α) : Except Error α → α
  | .ok value => value
  | .error error => handle error

/-- A program whose failures are made into values asks what it asked before,
and never fails. -/
theorem runs_recover_done_iff (program : Program α) (handle : Error → α)
    (events : List Event) (outcome : Except Error α) :
    Runs (program.recover fun error => .done (handle error)) events outcome ↔
      ∃ result, Runs program events result ∧
        outcome = .ok (recovered handle result) := by
  induction program generalizing events with
  | done value =>
      simp only [recover, runs_done_iff]
      constructor
      · rintro ⟨rfl, rfl⟩
        exact ⟨_, ⟨rfl, rfl⟩, rfl⟩
      · rintro ⟨_, ⟨rfl, rfl⟩, rfl⟩
        exact ⟨rfl, rfl⟩
  | fail error =>
      simp only [recover, runs_done_iff, runs_fail_iff]
      constructor
      · rintro ⟨rfl, rfl⟩
        exact ⟨_, ⟨rfl, rfl⟩, rfl⟩
      · rintro ⟨_, ⟨rfl, rfl⟩, rfl⟩
        exact ⟨rfl, rfl⟩
  | ask query next ih =>
      simp only [recover, runs_ask_iff, ih]
      constructor
      · rintro ⟨answer, rest, rfl, result, continues, rfl⟩
        exact ⟨result, ⟨answer, rest, rfl, continues⟩, rfl⟩
      · rintro ⟨result, ⟨answer, rest, rfl, continues⟩, rfl⟩
        exact ⟨answer, rest, rfl, result, continues, rfl⟩

/-- What a program asks a handler, with the handler's answers. -/
def transcript {σ : Type} (handler : Handler σ) : Program α → σ → List Event
  | done _, _ => []
  | fail _, _ => []
  | ask query next, state =>
      let (answer, state) := handler query state
      ⟨query, answer⟩ :: (next answer).transcript handler state

/-- Whatever a handler answers is a run. -/
theorem runs_transcript {σ : Type} (handler : Handler σ)
    (program : Program α) (state : σ) :
    Runs program (program.transcript handler state)
      (program.run handler state).1 := by
  induction program generalizing state with
  | done value => exact .done value
  | fail error => exact .fail error
  | ask query next ih => exact .ask _ _ _ _ _ (ih _ _)

end Program

end DataGrid
