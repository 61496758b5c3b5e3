import DataGrid.Json.Value
import DataGrid.Text.Blank

/-!
# Click handlers

What the client does when a cell or an action is clicked: run a snippet that it
is handed as it is, or call a function of one of its modules.  An argument of
the call is a value, or an expression that the client evaluates; on the wire an
expression is an object whose only field is `expression`.
-/

namespace DataGrid

/-- An argument of a module call. -/
inductive Argument
  | expression (text : String)
  | value (value : Json)

/-- What happens on a click. -/
inductive OnClick
  | inert (code : String)
  | call (module function : String) (arguments : List Argument)

namespace Argument

def toJson : Argument → Json
  | .expression text => .object [("expression", .text text)]
  | .value json => json

/-- Read an argument.  An object whose only field is `expression`, and a list
of one text, are expressions when the text is given; everything else is a
value. -/
def ofJson : Json → Argument
  | .object [("expression", .text text)] => .expression text
  | .list [.text text] => .expression text
  | json => .value json

/-- Equality as the wire sees it: the order of an object's fields is left
aside. -/
def same : Argument → Argument → Bool
  | .expression first, .expression second => first == second
  | .value first, .value second => first.same second
  | _, _ => false

end Argument

namespace OnClick

def snippet (code : String) : OnClick :=
  .inert (Text.trim code)

def toJson : OnClick → Json
  | .inert code => .text code
  | .call module function arguments =>
      .object [("module", .text module), ("function", .text function),
        ("args", .list (arguments.map Argument.toJson))]

/-- Read a handler: a text is a snippet, and an object that names a module and
a function is a call.  Arguments may be left out. -/
def ofJson? : Json → Option OnClick
  | .text code => some (.inert code)
  | .object fields =>
      let field := Json.Fields.get? fields
      match field "module", field "function", field "args" with
      | some (.text module), some (.text function), none =>
          some (.call module function [])
      | some (.text module), some (.text function), some (.list items) =>
          some (.call module function (items.map Argument.ofJson))
      | _, _, _ => none
  | _ => none

def sameArguments : List Argument → List Argument → Bool
  | [], [] => true
  | first :: firsts, second :: seconds =>
      first.same second && sameArguments firsts seconds
  | _, _ => false

def same : OnClick → OnClick → Bool
  | .inert first, .inert second => first == second
  | .call module function arguments, .call module' function' arguments' =>
      module == module' && function == function' &&
        sameArguments arguments arguments'
  | _, _ => false

end OnClick

end DataGrid
