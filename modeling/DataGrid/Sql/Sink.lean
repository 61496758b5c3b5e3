import DataGrid.Sql.Params

/-!
# Placeholders handed out

While a statement is written, a sink hands out the placeholders of its values
and keeps the values in the order in which they were bound.
-/

namespace DataGrid.Sql

def placeholderName (stem : String) (number : Nat) : String :=
  stem ++ "_" ++ toString number

/-- What has been bound in a statement so far, and how further values are to be
written. -/
structure Sink where
  style : Style
  stem : String
  params : Params
deriving DecidableEq, Repr

namespace Sink

def empty (style : Style) (stem : String) : Sink :=
  { style, stem, params := .empty style }

/-- Bind a value and hand out its placeholder.  A named value is numbered by
those before it. -/
def bind (value : Value) (sink : Sink) : String × Sink :=
  match sink.params with
  | .positional values =>
      ("?", { sink with params := .positional (values ++ [value]) })
  | .named values =>
      let name := placeholderName sink.stem values.length
      (":" ++ name, { sink with params := .named (values ++ [(name, value)]) })

/-- Bind values one after another. -/
def bindList : List Value → Sink → List String × Sink
  | [], sink => ([], sink)
  | value :: rest, sink =>
      let (place, sink) := sink.bind value
      let (others, sink) := sink.bindList rest
      (place :: others, sink)

/-- Write that columns are equal to values, one after another. -/
def equations (fields : List (String × Value)) : StateM Sink (List String) :=
  fields.mapM fun (column, value) => do
    let place ← modifyGet (·.bind value)
    pure s!"{column} = {place}"

/-- The statement whose text is written while its values are bound. -/
def statement (style : Style) (stem : String) (write : StateM Sink String) :
    Statement :=
  let (sql, sink) := write.run (.empty style stem)
  { sql, params := sink.params }

end Sink

end DataGrid.Sql
