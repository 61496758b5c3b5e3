import DataGrid.Database.Command
import DataGrid.Database.Lexeme

/-!
# Reading statements

The grammar of the statements that a grid and its demonstration need.  Each
function takes a construct off the front of the words and returns it with the
rest.  Operators bind in four strengths: OR the least, then AND, then the tests
of equality and LIKE and IN, then the comparisons by size.
-/

namespace DataGrid.Database

abbrev Taker (α : Type) := List Lexeme → Option (α × List Lexeme)

/-- The rest behind words that have to stand at the front. -/
def expect : List Lexeme → List Lexeme → Option (List Lexeme)
  | [], rest => some rest
  | _ :: _, [] => none
  | wanted :: wants, lexeme :: rest =>
      if wanted = lexeme then expect wants rest else none

def orStrength : Nat := 1

def andStrength : Nat := 2

/-- The strength of tests of equality, LIKE and IN. -/
def equalityStrength : Nat := 3

def sizeStrength : Nat := 4

/-- An operator between two operands: its strength, and what it makes of
them. -/
structure Operator where
  strength : Nat
  make : Written → Written → Written

/-- The operator that a word is, when it needs no other word. -/
def operator? : Lexeme → Option Operator
  | .word "or" => some ⟨orStrength, .either⟩
  | .word "and" => some ⟨andStrength, .both⟩
  | .mark "=" => some ⟨equalityStrength, .compare .equal⟩
  | .mark "<>" => some ⟨equalityStrength, .compare .unequal⟩
  | .mark "<" => some ⟨sizeStrength, .compare .less⟩
  | .mark "<=" => some ⟨sizeStrength, .compare .lessOrEqual⟩
  | .mark ">" => some ⟨sizeStrength, .compare .greater⟩
  | .mark ">=" => some ⟨sizeStrength, .compare .greaterOrEqual⟩
  | _ => none

def takeEscape : Taker (Option Char)
  | .word "escape" :: rest =>
      match rest with
      | .quoted text :: rest =>
          match text.toList with
          | [character] => some (some character, rest)
          | _ => none
      | _ => none
  | rest => some (none, rest)

/-- The operand is one of several values: it equals one of them. -/
def oneOf (operand : Written) : List Written → Written
  | [] => .literal (.integer 0)
  | [value] => .compare .equal operand value
  | value :: rest => .oneOf operand value (oneOf operand rest)

def takeColumn : Taker ColumnName
  | .word qualifier :: .mark "." :: .word name :: rest =>
      some (⟨some qualifier, name⟩, rest)
  | .word name :: rest => some (⟨none, name⟩, rest)
  | _ => none

/-- A moment is in local time when that is asked for behind it. -/
def takeZone : List Lexeme → Bool × List Lexeme
  | .mark "," :: .quoted "localtime" :: rest => (true, rest)
  | rest => (false, rest)

mutual

/-- An operand, the fuel bounding the recursion. -/
def takeOperand : Nat → Taker Written
  | 0, _ => none
  | fuel + 1, lexemes =>
      match lexemes with
      | .number value :: rest => some (.literal (.integer value), rest)
      | .quoted text :: rest => some (.literal (.text text), rest)
      | .parameter number :: rest => some (.parameter number, rest)
      | .word "null" :: rest => some (.literal .null, rest)
      | .word "true" :: rest => some (.literal (.integer 1), rest)
      | .word "false" :: rest => some (.literal (.integer 0), rest)
      | .mark "(" :: rest => do
          let (inner, rest) ← takeExpression fuel orStrength rest
          pure (inner, ← expect [.mark ")"] rest)
      | .word "case" :: .word "when" :: rest => do
          let (condition, rest) ← takeExpression fuel orStrength rest
          let (yes, rest) ← takeExpression fuel orStrength
            (← expect [.word "then"] rest)
          let (no, rest) ← takeExpression fuel orStrength
            (← expect [.word "else"] rest)
          pure (.choose condition yes no, ← expect [.word "end"] rest)
      | .word "cast" :: .mark "(" :: rest => do
          let (inner, rest) ← takeExpression fuel orStrength rest
          pure (.castToText inner,
            ← expect [.word "as", .word "text", .mark ")"] rest)
      | .word "lower" :: .mark "(" :: rest => do
          let (inner, rest) ← takeExpression fuel orStrength rest
          pure (.lower inner, ← expect [.mark ")"] rest)
      | .word "coalesce" :: .mark "(" :: rest => do
          let (first, rest) ← takeExpression fuel orStrength rest
          let (second, rest) ← takeExpression fuel orStrength
            (← expect [.mark ","] rest)
          pure (.coalesce first second, ← expect [.mark ")"] rest)
      | .word "strftime" :: .mark "(" :: rest => do
          let (format, rest) ← takeExpression fuel orStrength rest
          let (seconds, rest) ← takeExpression fuel orStrength
            (← expect [.mark ","] rest)
          let rest ← expect [.mark ",", .quoted "unixepoch"] rest
          let (inLocal, rest) := takeZone rest
          pure (.moment inLocal format seconds, ← expect [.mark ")"] rest)
      | lexemes =>
          (takeColumn lexemes).map fun (name, rest) => (.column name, rest)

def takeExpression : Nat → Nat → Taker Written
  | 0, _, _ => none
  | fuel + 1, strength, lexemes => do
      let (first, rest) ← takeOperand fuel lexemes
      takeOperators fuel strength first rest

/-- The operators behind an operand, as far as they have a given strength. -/
def takeOperators : Nat → Nat → Written → Taker Written
  | 0, _, _, _ => none
  | fuel + 1, strength, first, lexemes =>
      match lexemes with
      | .word "not" :: .word "like" :: rest =>
          if strength ≤ equalityStrength then
            takePattern fuel strength first true rest
          else some (first, lexemes)
      | .word "like" :: rest =>
          if strength ≤ equalityStrength then
            takePattern fuel strength first false rest
          else some (first, lexemes)
      | .word "in" :: .mark "(" :: rest =>
          if strength ≤ equalityStrength then do
            let (values, rest) ← takeValues fuel rest
            takeOperators fuel strength (oneOf first values) rest
          else some (first, lexemes)
      | lexeme :: rest =>
          match operator? lexeme with
          | some operator =>
              if strength ≤ operator.strength then do
                let (second, rest) ←
                  takeExpression fuel (operator.strength + 1) rest
                takeOperators fuel strength (operator.make first second) rest
              else some (first, lexemes)
          | none => some (first, lexemes)
      | [] => some (first, [])

/-- The pattern of a match, and the operators behind it. -/
def takePattern : Nat → Nat → Written → Bool → Taker Written
  | 0, _, _, _, _ => none
  | fuel + 1, strength, text, negated, lexemes => do
      let (pattern, rest) ← takeExpression fuel sizeStrength lexemes
      let (escape, rest) ← takeEscape rest
      takeOperators fuel strength (.like negated escape text pattern) rest

/-- Expressions with commas between them, up to a closing parenthesis. -/
def takeValues : Nat → Taker (List Written)
  | 0, _ => none
  | fuel + 1, lexemes => do
      let (value, rest) ← takeExpression fuel orStrength lexemes
      match rest with
      | .mark "," :: rest =>
          let (values, rest) ← takeValues fuel rest
          pure (value :: values, rest)
      | .mark ")" :: rest => some ([value], rest)
      | _ => none

end

/-- A bound of the recursion: between two words that are taken, at most four
functions call each other. -/
def fuelOf (lexemes : List Lexeme) : Nat :=
  4 * lexemes.length + 4

def greatestDepth : Nat := 1000

/-- An expression that is not nested too deep. -/
def takeWhole : Taker Written := fun lexemes => do
  let (expression, rest) ← takeExpression (fuelOf lexemes) orStrength lexemes
  guard (expression.depth ColumnName.depth ≤ greatestDepth)
  pure (expression, rest)

/-- Names of columns with commas between them, the fuel bounding their
number. -/
def takeColumns : Nat → Taker (List ColumnName)
  | 0, _ => none
  | fuel + 1, lexemes => do
      let (name, rest) ← takeColumn lexemes
      match rest with
      | .mark "," :: rest =>
          let (names, rest) ← takeColumns fuel rest
          pure (name :: names, rest)
      | rest => some ([name], rest)

def takeOutputs : Taker Outputs
  | .mark "*" :: rest => some (.all, rest)
  | .word "count" :: .mark "(" :: .number 1 :: .mark ")" :: rest =>
      some (.count, rest)
  | lexemes =>
      (takeColumns lexemes.length lexemes).map fun (names, rest) =>
        (.columns names, rest)

def clauseWords : List String := ["where", "order"]

/-- The name by which rows are addressed, when there is one. -/
def takeAlias : Taker (Option String)
  | .word "as" :: .word name :: rest => some (some name, rest)
  | .word name :: rest =>
      if clauseWords.contains name then some (none, .word name :: rest)
      else some (some name, rest)
  | rest => some (none, rest)

/-- The condition of a clause, which always holds when there is no clause. -/
def takeCondition : Taker Written
  | .word "where" :: rest => takeWhole rest
  | rest => some (.literal (.integer 1), rest)

def takeOrder : Taker (Option (Written × Direction))
  | .word "order" :: .word "by" :: rest => do
      let (key, rest) ← takeWhole rest
      match rest with
      | .word "desc" :: rest => some (some (key, .descending), rest)
      | .word "asc" :: rest => some (some (key, .ascending), rest)
      | rest => some (some (key, .ascending), rest)
  | rest => some (none, rest)

/-- The clauses of a query behind the place that it reads from. -/
def takeClauses (outputs : Outputs) : Taker Clauses := fun lexemes => do
  let (qualifier, rest) ← takeAlias lexemes
  let (condition, rest) ← takeCondition rest
  let (order, rest) ← takeOrder rest
  pure ({ outputs, qualifier, condition, order }, rest)

def takeSelect : Nat → Taker Select
  | 0, _ => none
  | fuel + 1, lexemes => do
      let (outputs, rest) ← takeOutputs lexemes
      match rest with
      | .word "from" :: .mark "(" :: .word "select" :: rest =>
          let (inner, rest) ← takeSelect fuel rest
          let (clauses, rest) ← takeClauses outputs (← expect [.mark ")"] rest)
          pure (.ofSelect inner clauses, rest)
      | .word "from" :: .word table :: rest =>
          let (clauses, rest) ← takeClauses outputs rest
          pure (.ofTable table clauses, rest)
      | _ => none

/-- Columns that are set to values, with commas between them. -/
def takeChanges : Nat → Taker (List (String × Written))
  | 0, _ => none
  | fuel + 1, .word name :: .mark "=" :: lexemes => do
      let (value, rest) ← takeWhole lexemes
      match rest with
      | .mark "," :: rest =>
          let (changes, rest) ← takeChanges fuel rest
          pure ((name, value) :: changes, rest)
      | rest => some ([(name, value)], rest)
  | _ + 1, _ => none

/-- The names of the columns of a new row, up to a closing parenthesis. -/
def takeNames : Taker (List String)
  | .word name :: .mark ")" :: rest => some ([name], rest)
  | .word name :: .mark "," :: rest =>
      (takeNames rest).map fun (names, rest) => (name :: names, rest)
  | _ => none

def takeRow : Taker (List (String × Written))
  | .word "default" :: .word "values" :: rest => some ([], rest)
  | .mark "(" :: rest => do
      let (names, rest) ← takeNames rest
      let rest ← expect [.word "values", .mark "("] rest
      let (values, rest) ← takeValues (fuelOf rest) rest
      if names.length = values.length then some (names.zip values, rest)
      else none
  | _ => none

def takeCommand : Taker Command
  | .word "select" :: rest =>
      (takeSelect rest.length rest).map fun (query, rest) =>
        (.select query, rest)
  | .word "insert" :: .word "into" :: .word table :: rest =>
      (takeRow rest).map fun (values, rest) => (.insert table values, rest)
  | .word "update" :: .word table :: .word "set" :: rest => do
      let (changes, rest) ← takeChanges rest.length rest
      let (condition, rest) ← takeCondition rest
      pure (.update table changes condition, rest)
  | .word "delete" :: .word "from" :: .word table :: rest => do
      let (condition, rest) ← takeCondition rest
      pure (.delete table condition, rest)
  | .word "drop" :: .word "table" :: .word table :: rest =>
      some (.drop table, rest)
  | _ => none

/-- Read a text that is a statement from end to end, and its placeholders. -/
def Command.read? (text : String) : Option (Command × Placeholders) := do
  let (words, placeholders) ← lexemes text
  match ← takeCommand words with
  | (command, []) => some (command, placeholders)
  | _ => none

end DataGrid.Database
