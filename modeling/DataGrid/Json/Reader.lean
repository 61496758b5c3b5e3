import DataGrid.Json.Token

/-!
# Reading JSON text

The second half of reading: tokens become a value.  The containers that are
still open are kept on a stack, so one pass over the tokens suffices.  At most
`depthLimit` containers may be open at once.
-/

namespace DataGrid.Json

/-- The greatest number of containers that may be open at once. -/
def depthLimit : Nat := 127

/-- A container that waits for the value being read: a list with the items
before it, last first, or an object with the fields before it and the name of
the field. -/
inductive Frame
  | list (before : List Json)
  | field (before : Fields) (name : String)

/-- What may come next, with the containers that are open, innermost first. -/
inductive Expecting
  /-- A value; with `mayClose`, the end of the list just opened will do. -/
  | value (mayClose : Bool) (frames : List Frame)
  /-- A field's name; with `mayClose`, the end of the object will do. -/
  | name (mayClose : Bool) (before : Fields) (frames : List Frame)
  /-- The colon after a field's name. -/
  | colon (before : Fields) (name : String) (frames : List Frame)
  /-- A comma or the end of the innermost container, after a value. -/
  | after (value : Json) (frames : List Frame)

def mayOpen (frames : List Frame) : Bool :=
  frames.length < depthLimit

def scalar? : Token → Option Json
  | .word value => some value
  | .number value => value.map .number
  | .text value => value.map .text
  | _ => none

def step : Expecting → Token → Option Expecting
  | .value mayClose frames, token =>
      match token with
      | .openList =>
          if mayOpen frames then some (.value true (.list [] :: frames))
          else none
      | .openObject =>
          if mayOpen frames then some (.name true [] frames) else none
      | .closeList =>
          match mayClose, frames with
          | true, .list [] :: outer => some (.after (.list []) outer)
          | _, _ => none
      | token => (scalar? token).map (.after · frames)
  | .name mayClose before frames, token =>
      match token with
      | .text name => name.map (.colon before · frames)
      | .closeObject =>
          if mayClose then some (.after (.object before) frames) else none
      | _ => none
  | .colon before name frames, token =>
      match token with
      | .colon => some (.value false (.field before name :: frames))
      | _ => none
  | .after value frames, token =>
      match token, frames with
      | .comma, .list before :: outer =>
          some (.value false (.list (value :: before) :: outer))
      | .closeList, .list before :: outer =>
          some (.after (.list (value :: before).reverse) outer)
      | .comma, .field before name :: outer =>
          some (.name false (before.insert name value) outer)
      | .closeObject, .field before name :: outer =>
          some (.after (.object (before.insert name value)) outer)
      | _, _ => none

/-- Take all tokens.  The last one has to end the outermost value. -/
def build (expecting : Expecting) : List Token → Option Json
  | [] =>
      match expecting with
      | .after value [] => some value
      | _ => none
  | token :: rest => do build (← step expecting token) rest

/-- Read the value that a whole text names. -/
def read? (text : String) : Option Json := do
  build (.value false []) (← tokens text.toList)

end DataGrid.Json
