import DataGrid.Decimal.Double

/-!
# JSON values

The values that rows, filters and responses are made of.  An object keeps its
fields in the order in which they were first given, because that order shows
wherever an object is turned into text; two objects are nevertheless equal when
they hold the same fields in any order.
-/

namespace DataGrid

/-- A number is an integer of sixty-four bits, signed or not, or a finite
double precision number. -/
inductive Json.Number
  | integer (value : Int)
  | real (value : Double)
deriving DecidableEq, Repr

/-- A JSON value. -/
inductive Json
  | null
  | bool (value : Bool)
  | number (value : Json.Number)
  | text (value : String)
  | list (items : List Json)
  | object (fields : List (String × Json))

namespace Json

instance : Inhabited Json := ⟨.null⟩

/-- The fields of an object, in order. -/
abbrev Fields := List (String × Json)

def ofInt (value : Int) : Json :=
  .number (.integer value)

/-- Numbers are equal as values of their own kind: an integer never equals a
double precision number. -/
def Number.same : Number → Number → Bool
  | .integer first, .integer second => first == second
  | .real first, .real second => first.same second
  | _, _ => false

namespace Fields

def get? (fields : Fields) (name : String) : Option Json :=
  (fields.find? (·.1 == name)).map (·.2)

/-- Take out the field of a name. -/
def erase (fields : Fields) (name : String) : Fields :=
  fields.eraseP (·.1 == name)

/-- Set a field: an existing one keeps its place, a new one comes last. -/
def insert (fields : Fields) (name : String) (value : Json) : Fields :=
  match fields with
  | [] => [(name, value)]
  | field :: rest =>
      if field.1 == name then (name, value) :: rest
      else field :: insert rest name value

def insertAll (fields : Fields) (more : Fields) : Fields :=
  more.foldl (fun fields field => fields.insert field.1 field.2) fields

/-- The fields of a list of pairs; of a name that comes twice the later value
stands at the earlier place. -/
def ofPairs (pairs : List (String × Json)) : Fields :=
  insertAll [] pairs

end Fields

mutual

/-- Equality of values, the order of an object's fields left aside. -/
def same : Json → Json → Bool
  | .null, .null => true
  | .bool first, .bool second => first == second
  | .number first, .number second => first.same second
  | .text first, .text second => first == second
  | .list first, .list second => sameItems first second
  | .object first, .object second => sameFields first second
  | _, _ => false

def sameItems : List Json → List Json → Bool
  | [], [] => true
  | first :: firsts, second :: seconds =>
      same first second && sameItems firsts seconds
  | _, _ => false

/-- Every field of the first list is taken out of the second, where it is found
under its name with an equal value, and none is left there. -/
def sameFields : List (String × Json) → List (String × Json) → Bool
  | [], others => others.isEmpty
  | (name, value) :: rest, others =>
      match Fields.get? others name with
      | some other =>
          same value other && sameFields rest (Fields.erase others name)
      | none => false

end

end Json

end DataGrid
