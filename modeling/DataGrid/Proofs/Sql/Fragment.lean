import DataGrid.Sql.Dialect
import DataGrid.Sql.Sink

/-!
# Parts of statements

A fragment is text with values in it.  It says what a part of a statement is,
whatever has been bound in front of that part: `write` puts a placeholder where
a value stands, and `params` collects the values.
-/

namespace DataGrid.Sql

/-- A piece of a statement. -/
inductive Piece
  /-- Text that is written as it is. -/
  | text (text : String)
  /-- A value for which a placeholder is written. -/
  | value (value : Value)
deriving DecidableEq, Repr

/-- A part of a statement. -/
abbrev Fragment := List Piece

/-- The placeholder of the value with a given number. -/
def placeholder (style : Style) (stem : String) (number : Nat) : String :=
  match style with
  | .positional => "?"
  | .named => ":" ++ placeholderName stem number

/-- Values in a style; named values are numbered from zero. -/
def Params.number (style : Style) (stem : String) (values : List Value) :
    Params :=
  match style with
  | .positional => .positional values
  | .named =>
      .named (values.zipIdx.map fun item =>
        (placeholderName stem item.2, item.1))

namespace Fragment

def ofText (text : String) : Fragment :=
  [.text text]

def ofValue (value : Value) : Fragment :=
  [.value value]

/-- The values in a fragment, in order. -/
def values (fragment : Fragment) : List Value :=
  fragment.filterMap fun
    | .value value => some value
    | .text _ => none

/-- The texts of the pieces of a fragment whose first value has a given
number. -/
def texts (style : Style) (stem : String) : Nat → Fragment → List String
  | _, [] => []
  | number, .text text :: rest => text :: texts style stem number rest
  | number, .value _ :: rest =>
      placeholder style stem number :: texts style stem (number + 1) rest

def write (style : Style) (stem : String) (fragment : Fragment) : String :=
  String.join (fragment.texts style stem 0)

def params (style : Style) (stem : String) (fragment : Fragment) : Params :=
  Params.number style stem fragment.values

def statement (style : Style) (stem : String) (fragment : Fragment) :
    Statement :=
  { sql := fragment.write style stem, params := fragment.params style stem }

/-- Fragments with a text between neighbours. -/
def join (separator : String) : List Fragment → Fragment
  | [] => []
  | [fragment] => fragment
  | fragment :: rest => fragment ++ .text separator :: join separator rest

def between (opening : String) (fragment : Fragment) (closing : String) :
    Fragment :=
  .text opening :: fragment ++ [.text closing]

end Fragment

/-- A match of an expression against a pattern, as a part of a statement. -/
def Dialect.like (dialect : Dialect) (expression : String)
    (pattern : Fragment) (negate : Bool) : Fragment :=
  let no := if negate then "NOT " else ""
  match dialect with
  | sqlite =>
      pattern.between s!"LOWER({expression}) {no}LIKE LOWER(" ") ESCAPE '\\'"
  | postgres => pattern.between s!"{expression} {no}ILIKE " " ESCAPE '\\'"
  | mysql =>
      pattern.between s!"LOWER({expression}) {no}LIKE LOWER("
        ") ESCAPE '\\\\'"

end DataGrid.Sql
