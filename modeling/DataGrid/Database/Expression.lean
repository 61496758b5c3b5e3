import DataGrid.Database.Moment
import DataGrid.Database.Value
import DataGrid.Sql.Like
import DataGrid.Text.Ascii

/-!
# Expressions

An expression is written with the names of columns.  Before it is evaluated the
names are resolved to places in a row; a name that cannot be resolved makes the
whole statement void.
-/

namespace DataGrid.Database

/-- How two operands are compared. -/
inductive Comparison
  | equal
  | unequal
  | less
  | lessOrEqual
  | greater
  | greaterOrEqual
deriving DecidableEq, Repr

def Comparison.holds : Comparison → Ordering → Bool
  | equal, order => order == .eq
  | unequal, order => order != .eq
  | less, order => order == .lt
  | lessOrEqual, order => order != .gt
  | greater, order => order == .gt
  | greaterOrEqual, order => order != .lt

/-- An expression whose columns are given as references of some kind. -/
inductive Expression (ρ : Type)
  | literal (value : Sql.Value)
  | parameter (number : Nat)
  | column (reference : ρ)
  | compare (comparison : Comparison) (first second : Expression ρ)
  | both (first second : Expression ρ)
  | either (first second : Expression ρ)
  /-- An operand equals a value, or what is said of the others holds. -/
  | oneOf (operand value others : Expression ρ)
  /-- A match against a pattern with an escape character. -/
  | like (negated : Bool) (escape : Option Char) (text pattern : Expression ρ)
  /-- The first operand unless it is null. -/
  | coalesce (first second : Expression ρ)
  | castToText (operand : Expression ρ)
  | lower (operand : Expression ρ)
  | choose (condition yes no : Expression ρ)
  /-- A moment in a format, in local or in universal time. -/
  | moment (inLocal : Bool) (format seconds : Expression ρ)
deriving Repr

/-- A column as it is named in a statement. -/
structure ColumnName where
  qualifier : Option String
  name : String
deriving DecidableEq, Repr

/-- How deep a name is nested: a qualifier stands above it. -/
def ColumnName.depth (column : ColumnName) : Nat :=
  if column.qualifier.isSome then 2 else 1

/-- A place in a row, with the affinity of its column. -/
structure Slot where
  position : Nat
  affinity : Affinity
deriving DecidableEq, Repr

/-- What an expression is evaluated with besides a row: the values of the
placeholders, and the local time of the server. -/
structure Scope where
  arguments : Array Sql.Value
  localTime : Time.LocalTime

namespace Expression

variable {ρ σ : Type}

def resolve (find : ρ → Option σ) : Expression ρ → Option (Expression σ)
  | literal value => some (.literal value)
  | parameter number => some (.parameter number)
  | column reference => (find reference).map .column
  | compare comparison first second => do
      pure (.compare comparison (← first.resolve find) (← second.resolve find))
  | both first second => do
      pure (.both (← first.resolve find) (← second.resolve find))
  | either first second => do
      pure (.either (← first.resolve find) (← second.resolve find))
  | oneOf operand value others => do
      pure (.oneOf (← operand.resolve find) (← value.resolve find)
        (← others.resolve find))
  | like negated escape text pattern => do
      pure (.like negated escape (← text.resolve find)
        (← pattern.resolve find))
  | coalesce first second => do
      pure (.coalesce (← first.resolve find) (← second.resolve find))
  | castToText operand => do pure (.castToText (← operand.resolve find))
  | lower operand => do pure (.lower (← operand.resolve find))
  | choose condition yes no => do
      pure (.choose (← condition.resolve find) (← yes.resolve find)
        (← no.resolve find))
  | moment inLocal format seconds => do
      pure (.moment inLocal (← format.resolve find) (← seconds.resolve find))

/-- How deep an expression is nested, columns counting as their references
say.  The values that an operand may equal stand side by side. -/
def depth (reference : ρ → Nat) : Expression ρ → Nat
  | literal _ | parameter _ => 1
  | column name => reference name
  | compare _ first second | both first second | either first second
  | coalesce first second | moment _ first second =>
      max (first.depth reference) (second.depth reference) + 1
  | oneOf operand value others =>
      max (max (operand.depth reference) (value.depth reference) + 1)
        (others.depth reference)
  | like negated _ text pattern =>
      max (text.depth reference) (pattern.depth reference) +
        (if negated then 2 else 1)
  | castToText operand | lower operand => operand.depth reference + 1
  | choose condition yes no =>
      max (condition.depth reference)
        (max (yes.depth reference) (no.depth reference)) + 1

def affinity : Expression Slot → Affinity
  | column slot => slot.affinity
  | castToText _ => .text
  | _ => .none

/-- Both of two truth values, one of which may be unknown. -/
def andTruth : Option Bool → Option Bool → Option Bool
  | some false, _ | _, some false => some false
  | some true, some true => some true
  | _, _ => none

def orTruth : Option Bool → Option Bool → Option Bool
  | some true, _ | _, some true => some true
  | some false, some false => some false
  | _, _ => none

/-- A character as a match sees it.  The last two code points of the first
plane are no characters and count as the replacement character. -/
def seen (character : Char) : Char :=
  if character.toNat = 0xFFFE || character.toNat = 0xFFFF then '\ufffd'
  else character

/-- The characters of a text that take part in a match: a null character ends
them. -/
def matched (text : String) : List Char :=
  (text.toList.takeWhile (·.toNat != 0)).map seen

def likeTruth (negated : Bool) (escape : Option Char)
    (text pattern : Sql.Value) : Option Bool := do
  let text ← text.text?
  let pattern ← pattern.text?
  pure (Sql.Like.isMatch escape (matched pattern) (matched text) != negated)

/-- The value of an expression for a row. -/
def value (scope : Scope) (row : List Sql.Value) :
    Expression Slot → Sql.Value
  | literal value => value
  | parameter number => scope.arguments.getD number .null
  | column slot => row.getD slot.position .null
  | compare comparison first second =>
      .ofTruth ((Sql.Value.compare? first.affinity second.affinity
        (first.value scope row) (second.value scope row)).map
          comparison.holds)
  | both first second =>
      .ofTruth (andTruth (first.value scope row).truth?
        (second.value scope row).truth?)
  | either first second =>
      .ofTruth (orTruth (first.value scope row).truth?
        (second.value scope row).truth?)
  | oneOf operand value others =>
      .ofTruth (orTruth
        ((Sql.Value.compare? operand.affinity value.affinity
          (operand.value scope row) (value.value scope row)).map
            Comparison.equal.holds)
        (others.value scope row).truth?)
  | like negated escape text pattern =>
      .ofTruth (likeTruth negated escape (text.value scope row)
        (pattern.value scope row))
  | coalesce first second =>
      match first.value scope row with
      | .null => second.value scope row
      | value => value
  | castToText operand => (operand.value scope row).castToText
  | lower operand =>
      match (operand.value scope row).text? with
      | some text => .text (Text.lower text)
      | none => .null
  | choose condition yes no =>
      if (condition.value scope row).truth? = some true then
        yes.value scope row
      else no.value scope row
  | moment inLocal format seconds =>
      match (format.value scope row).text?,
          (seconds.value scope row).toDouble? with
      | some format, some seconds =>
          let localTime := if inLocal then scope.localTime else .universal
          match formatMoment localTime seconds format.toList with
          | some characters => .text (String.ofList characters)
          | none => .null
      | _, _ => .null

def holds (scope : Scope) (row : List Sql.Value)
    (condition : Expression Slot) : Bool :=
  (condition.value scope row).truth? == some true

end Expression

end DataGrid.Database
