import DataGrid.Filter
import DataGrid.Filter.Number
import DataGrid.Source.Resolve
import DataGrid.Sql.Dialect
import DataGrid.Sql.Sink

/-!
# From filters to conditions

The filters and the search of a request become one condition.  Every value that
a client sent is bound in a sink, and its placeholder is written into the text;
the rest of the text depends only on the table and on the functions that were
asked for.
-/

namespace DataGrid.Filter

/-- Everything that a condition depends on besides the request. -/
structure Context where
  columns : Columns
  source : Source
  types : ColumnTypes
  /-- Expressions that are searched besides the columns. -/
  fullText : List String
  dialect : Sql.Dialect
  style : Sql.Style
  dateFormat : String
  timezone : String

namespace Context

def typeOf (context : Context) (column : Column) : DataType :=
  column.effectiveType context.types

/-- A column as the text that a client sees and searches: a moment in its
format, everything else cast to text. -/
def textExpression (context : Context) (column : Column) :
    Except Error String :=
  let expression := context.source.resolve column
  if context.typeOf column = .timestamp then
    context.dialect.formatTimestamp expression
      (column.format.getD context.dateFormat) context.timezone
  else .ok (context.dialect.castToText expression)

def typed (context : Context) (column : Column) (text : String) : String :=
  if context.typeOf column = .number then normalizeNumber text else text

/-- The condition that asks nothing. -/
def unrestricted (context : Context) : Sql.Statement :=
  { sql := "1=1", params := .empty context.style }

end Context

def wordsPattern (text : String) : List Char :=
  (Text.join "%" (Text.words
    (String.ofList (Sql.escapeLike (Text.trim text).toList)))).toList

/-- The pattern of a text that occurs anywhere. -/
def anywherePattern (text : String) : String :=
  String.ofList ('%' :: Sql.escapeLike text.toList ++ ['%'])

def operator? : FilterFunction → Option String
  | .greaterThan => some ">"
  | .greaterThanOrEqualTo => some ">="
  | .lessThan => some "<"
  | .lessThanOrEqualTo => some "<="
  | _ => none

/-- Work that binds values in the sink of a condition.  When it fails there is
no condition, and no sink either. -/
abbrev Writing := StateT Sql.Sink (Except Error)

/-- Write a match of a column's text with a pattern.  The pattern is bound
before it is known whether the column has a text. -/
def writeMatch (context : Context) (column : Column) (pattern : List Char)
    (negate : Bool) : Writing (Option String) := do
  let place ← modifyGet (·.bind (.text (String.ofList pattern)))
  let expression ← context.textExpression column
  pure (some (context.dialect.likeText expression place negate))

/-- Write a comparison of an expression with the number at the front of a
text. -/
def writeComparison (expression operator text : String) : Writing String := do
  let place ← modifyGet (·.bind (.real (leadingNumber text)))
  pure s!"{expression} {operator} {place}"

/-- Write one side of a range, unless it is open. -/
def writeBound (expression operator text : String) :
    Writing (List String) := do
  if Text.allBlank text then pure []
  else pure [← writeComparison expression operator text]

/-- Write the condition that a function and a value put on a column, or nothing
when the value leaves nothing to ask. -/
def writePredicate (context : Context) (column : Column)
    (function : FilterFunction) (value : FilterValue) :
    Writing (Option String) :=
  let expression := context.source.resolve column
  match function with
  | .contains =>
      if Text.allBlank value.text then pure none
      else
        writeMatch context column ('%' :: wordsPattern value.text ++ ['%'])
          false
  | .equals =>
      match value with
      | .list [] => pure none
      | .list texts => do
          let places ← modifyGet (·.bindList (texts.map .text))
          let expression ← context.textExpression column
          let listed := Text.join ", " places
          pure (some s!"{expression} IN ({listed})")
      | .scalar text =>
          writeMatch context column (Sql.escapeLike text.toList) false
  | .notEquals =>
      writeMatch context column (Sql.escapeLike value.text.toList) true
  | .startsWith =>
      writeMatch context column (Sql.escapeLike value.text.toList ++ ['%'])
        false
  | .endsWith =>
      writeMatch context column ('%' :: Sql.escapeLike value.text.toList) false
  | .greaterThan | .greaterThanOrEqualTo | .lessThan | .lessThanOrEqualTo =>
      if Text.allBlank value.text then pure none
      else
        some <$> writeComparison expression ((operator? function).getD "")
          value.text
  | .empty => pure (some s!"COALESCE({expression}, '') = ''")
  | .notEmpty => pure (some s!"COALESCE({expression}, '') <> ''")
  | .between => do
      let lower ← writeBound expression ">=" (value.bound 0)
      let upper ← writeBound expression "<=" (value.bound 1)
      match lower ++ upper with
      | [] => pure none
      | sides => pure (some (Text.join " AND " sides))

/-- Write the condition of one filter.  A filter on a column that does not exist
or cannot be filtered asks nothing, but its function has to be one. -/
def writeClause (context : Context) (filter : Filter) :
    Writing (Option String) :=
  match FilterFunction.ofName? filter.function with
  | none =>
      throw (.protocol (.unknownFilterFunction (filter.function.getD "")))
  | some function =>
      match (context.columns.get? filter.column).filter Column.canFilter with
      | none => pure none
      | some column =>
          writePredicate context column function
            (filter.value.map (context.typed column))

/-- Write the conditions of filters, those that ask nothing left out. -/
def writeClauses (context : Context) : List Filter → Writing (List String)
  | [] => pure []
  | filter :: rest => do
      let first ← writeClause context filter
      let others ← writeClauses context rest
      pure (first.toList ++ others)

def columnStem : String := "filter"

def searchStem : String := "global_filter"

def idStem : String := "id_filter"

/-- The condition of the filters of a request: each of them has to hold. -/
def columnStatement (context : Context) (filters : List Filter) :
    Except Error Sql.Statement := do
  let (conditions, sink) ← (writeClauses context filters).run
    (.empty context.style columnStem)
  match conditions with
  | [] => pure context.unrestricted
  | conditions =>
      let joined := Text.join " AND " conditions
      pure { sql := s!"({joined})", params := sink.params }

/-- The columns that a search looks at, with their texts. -/
def searched (context : Context) :
    List Column → Except Error (List (Column × String))
  | [] => .ok []
  | column :: rest =>
      if column.canFilter then do
        let expression ← context.textExpression column
        let others ← searched context rest
        pure ((column, expression) :: others)
      else searched context rest

/-- Write that a text occurs in an expression. -/
def writePlace (context : Context) (expression text : String) :
    StateM Sql.Sink String := do
  let place ← modifyGet (·.bind (.text (anywherePattern text)))
  pure (context.dialect.likeText expression place false)

/-- Places of which any will do; without places there is none that does. -/
def anyPlace : List String → String
  | [] => "(1=0)"
  | places => "(" ++ Text.join " OR " places ++ ")"

/-- Write the places at which a word may be found. -/
def writeWord (context : Context) (columns : List (Column × String))
    (word : String) : StateM Sql.Sink String := do
  let inColumns ← columns.mapM fun (column, expression) =>
    writePlace context expression (context.typed column word)
  let inFullText ← context.fullText.mapM fun expression =>
    writePlace context (context.dialect.castToText expression) word
  pure (anyPlace (inColumns ++ inFullText))

/-- Write that each of some words is found somewhere. -/
def writeWords (context : Context) (columns : List (Column × String))
    (words : List String) : StateM Sql.Sink String := do
  let found ← words.mapM (writeWord context columns)
  pure ("(" ++ Text.join " AND " found ++ ")")

/-- The condition of the search of a request. -/
def searchStatement (context : Context) (search : String) :
    Except Error Sql.Statement :=
  match Text.words search with
  | [] => .ok context.unrestricted
  | words => do
      let columns ← searched context context.columns
      pure (Sql.Sink.statement context.style searchStem
        (writeWords context columns words))

/-- The condition of the filters and the search of a request. -/
def compile (context : Context) (filters : List Filter) (search : String) :
    Except Error Sql.Statement := do
  let column ← columnStatement context filters
  let search ← searchStatement context search
  let params ← column.params.append search.params
  pure { sql := s!"({column.sql} AND {search.sql})", params }

def idExpression (context : Context) : String :=
  match context.columns.get? "id" with
  | some column => context.source.resolve column
  | none => context.source.resolveKey "id"

/-- Write that a row has one of the given ids. -/
def writeSelection (context : Context) (ids : List String) :
    StateM Sql.Sink String := do
  let places ← modifyGet (·.bindList (ids.map .ofRowId))
  let listed := Text.join ", " places
  pure s!"{idExpression context} IN ({listed})"

/-- The condition that a row is one of those with the given ids, filters and
search left aside. -/
def compileSelection (context : Context) (ids : List String) :
    Sql.Statement :=
  match ids with
  | [] => { sql := "1=0", params := .empty context.style }
  | ids =>
      Sql.Sink.statement context.style idStem (writeSelection context ids)

end DataGrid.Filter
