import DataGrid.Proofs.Sql.Placeholders

/-!
# Fragments in sinks

Writing a fragment into a sink binds its values, each behind those that are
bound already, and puts their placeholders between its texts.  Work that does
this for a fragment, whatever is in the sink, writes the statement of that
fragment when it starts with an empty sink.
-/

namespace DataGrid.Sql

namespace Fragment

/-- Write a fragment into a sink: its texts as they are, and for each value the
placeholder that the sink hands out. -/
def put : Fragment → Sink → String × Sink
  | [], sink => ("", sink)
  | .text text :: rest, sink =>
      let (written, sink) := put rest sink
      (text ++ written, sink)
  | .value value :: rest, sink =>
      let (place, sink) := sink.bind value
      let (written, sink) := put rest sink
      (place ++ written, sink)

/-- Write fragments into a sink, one after another. -/
def putAll : List Fragment → Sink → List String × Sink
  | [], sink => ([], sink)
  | fragment :: rest, sink =>
      let (written, sink) := fragment.put sink
      let (others, sink) := putAll rest sink
      (written :: others, sink)

@[simp]
theorem put_nil (sink : Sink) : put [] sink = ("", sink) :=
  rfl

@[simp]
theorem put_text (text : String) (rest : Fragment) (sink : Sink) :
    put (.text text :: rest) sink =
      (text ++ (rest.put sink).1, (rest.put sink).2) :=
  rfl

@[simp]
theorem put_value (value : Value) (rest : Fragment) (sink : Sink) :
    put (.value value :: rest) sink =
      ((sink.bind value).1 ++ (rest.put (sink.bind value).2).1,
        (rest.put (sink.bind value).2).2) :=
  rfl

@[simp]
theorem putAll_cons (fragment : Fragment) (rest : List Fragment)
    (sink : Sink) :
    putAll (fragment :: rest) sink =
      ((fragment.put sink).1 :: (putAll rest (fragment.put sink).2).1,
        (putAll rest (fragment.put sink).2).2) :=
  rfl

@[simp]
theorem put_append (first second : Fragment) (sink : Sink) :
    (first ++ second).put sink =
      ((first.put sink).1 ++ (second.put (first.put sink).2).1,
        (second.put (first.put sink).2).2) := by
  induction first generalizing sink with
  | nil => simp
  | cons piece rest ih => cases piece <;> simp [ih, String.append_assoc]

@[simp]
theorem put_between (opening : String) (fragment : Fragment)
    (closing : String) (sink : Sink) :
    (fragment.between opening closing).put sink =
      (opening ++ (fragment.put sink).1 ++ closing, (fragment.put sink).2) := by
  simp [between, String.append_assoc]

theorem putAll_append (first second : List Fragment) (sink : Sink) :
    putAll (first ++ second) sink =
      ((putAll first sink).1 ++ (putAll second (putAll first sink).2).1,
        (putAll second (putAll first sink).2).2) := by
  induction first generalizing sink with
  | nil => rfl
  | cons fragment rest ih => simp [ih]

theorem put_join (separator : String) (fragments : List Fragment)
    (sink : Sink) :
    (join separator fragments).put sink =
      (Text.join separator (putAll fragments sink).1,
        (putAll fragments sink).2) := by
  induction fragments generalizing sink with
  | nil => rfl
  | cons fragment rest ih =>
      cases rest with
      | nil => rfl
      | cons next rest =>
          have joined : join separator (fragment :: next :: rest) =
              fragment ++ .text separator ::
                join separator (next :: rest) :=
            rfl
          rw [joined, put_append, put_text, ih, putAll_cons, putAll_cons]
          simp [Text.join, String.append_assoc]

/-- Write a fragment into a sink, if there is one. -/
def put? : Option Fragment → Sink → Option String × Sink
  | none, sink => (none, sink)
  | some fragment, sink =>
      let (written, sink) := fragment.put sink
      (some written, sink)

theorem put_like (dialect : Dialect) (expression : String) (value : Value)
    (negate : Bool) (sink : Sink) :
    (dialect.like expression (ofValue value) negate).put sink =
      (dialect.likeText expression (sink.bind value).1 negate,
        (sink.bind value).2) := by
  cases dialect <;>
    simp [Dialect.like, Dialect.likeText, ofValue, String.append_assoc,
      toString]

/-- The part that a column is equal to a value. -/
def equation (field : String × Value) : Fragment :=
  [.text s!"{field.1} = ", .value field.2]

theorem flatMap_values_equation (fields : List (String × Value)) :
    (fields.map equation).flatMap values = fields.map Prod.snd := by
  rw [List.flatMap_map, List.map_eq_flatMap]
  rfl

/-- The sink that has bound values under a stem. -/
def bound (style : Style) (stem : String) (values : List Value) : Sink :=
  { style, stem, params := .number style stem values }

theorem bind_bound (style : Style) (stem : String) (values : List Value)
    (value : Value) :
    (bound style stem values).bind value =
      (placeholder style stem values.length,
        bound style stem (values ++ [value])) := by
  cases style with
  | positional => rfl
  | named =>
      simp [bound, Sink.bind, Params.number, placeholder, List.zipIdx_append]

/-- What is written depends on the number of the values that are bound
already. -/
theorem put_bound (style : Style) (stem : String) (values : List Value)
    (fragment : Fragment) :
    fragment.put (bound style stem values) =
      (String.join (fragment.texts style stem values.length),
        bound style stem (values ++ fragment.values)) := by
  induction fragment generalizing values with
  | nil => simp [texts]
  | cons piece rest ih =>
      cases piece with
      | text text => simp [texts, ih]
      | value value => simp [texts, ih, bind_bound]

/-- A fragment that is written into an empty sink is written as a statement. -/
theorem statement_eq_put (style : Style) (stem : String)
    (fragment : Fragment) :
    fragment.statement style stem =
      { sql := (fragment.put (.empty style stem)).1
        params := (fragment.put (.empty style stem)).2.params } := by
  have nothing : Sink.empty style stem = bound style stem [] := by
    cases style <;> rfl
  rw [nothing, put_bound]
  rfl

/-- A text alone is a statement without values. -/
theorem statement_ofText (style : Style) (stem text : String) :
    (ofText text).statement style stem =
      { sql := text, params := .empty style } := by
  cases style <;> simp [statement, write, texts, params, ofText] <;> rfl

end Fragment

namespace Sink

open Fragment

theorem bindList_eq_putAll (values : List Value) (sink : Sink) :
    sink.bindList values = putAll (values.map ofValue) sink := by
  induction values generalizing sink with
  | nil => rfl
  | cons value rest ih => simp [bindList, ofValue, ih]

/-- Work that writes a fragment, whatever has been bound so far. -/
def Puts (write : StateM Sink String) (fragment : Fragment) : Prop :=
  ∀ sink, (write.run sink).run = fragment.put sink

theorem Puts.statement_eq {write : StateM Sink String} {fragment : Fragment}
    (puts : Puts write fragment) (style : Style) (stem : String) :
    Sink.statement style stem write = fragment.statement style stem := by
  have written := puts (.empty style stem)
  rw [Id.run] at written
  rw [Sink.statement, written, statement_eq_put]

/-- Work on items one after another writes their fragments one after
another. -/
theorem run_mapM_eq_putAll {α : Type} {write : α → StateM Sink String}
    {piece : α → Fragment} (puts : ∀ item, Puts (write item) (piece item))
    (items : List α) (sink : Sink) :
    ((items.mapM write).run sink).run = putAll (items.map piece) sink := by
  induction items generalizing sink with
  | nil => rfl
  | cons item rest ih =>
      simp [puts item sink, ih]

theorem run_equations (fields : List (String × Value)) (sink : Sink) :
    ((equations fields).run sink).run =
      putAll (fields.map equation) sink := by
  refine run_mapM_eq_putAll (fun field sink => ?_) fields sink
  simp [equation, toString]

end Sink

end DataGrid.Sql
