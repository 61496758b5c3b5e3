import DataGrid.Error
import DataGrid.Sql.Value

/-!
# Bound values

The values of one statement, in one of two styles: by position, for `?`, or by
name, for `:name`.  The styles never mix within a statement.
-/

namespace DataGrid.Sql

/-- How the placeholders of a statement are written. -/
inductive Style
  | positional
  | named
deriving DecidableEq, Repr

/-- The values bound to the placeholders of one statement. -/
inductive Params
  | positional (values : List Value)
  | named (values : List (String × Value))
deriving DecidableEq, Repr

namespace Params

instance : Inhabited Params := ⟨.positional []⟩

def empty : Style → Params
  | .positional => .positional []
  | .named => .named []

def length : Params → Nat
  | positional values => values.length
  | named values => values.length

def isEmpty (params : Params) : Bool :=
  params.length == 0

/-- The style in which further placeholders are to be written.  A list without
values leaves the choice open and counts as positional. -/
def style : Params → Style
  | named (_ :: _) => .named
  | _ => .positional

def values : Params → List Value
  | positional values => values
  | named values => values.map (·.2)

/-- Values appended to those that are held: what comes of it, and what is held
afterwards.  A side without values gives way to the other, whatever its style;
otherwise the styles have to agree. -/
def extend (held more : Params) : Except Error Unit × Params :=
  if more.isEmpty then (.ok (), held)
  else if held.isEmpty then (.ok (), more)
  else
    match held, more with
    | positional values, positional further =>
        (.ok (), .positional (values ++ further))
    | named values, named further => (.ok (), .named (values ++ further))
    | _, _ => (.error (.table .mixedParameters), held)

/-- Values followed by more values, unless these are refused. -/
def append (first second : Params) : Except Error Params := do
  let (appended, held) := first.extend second
  appended
  pure held

end Params

/-- A statement with its values. -/
structure Statement where
  sql : String
  params : Params
deriving DecidableEq, Repr

end DataGrid.Sql
