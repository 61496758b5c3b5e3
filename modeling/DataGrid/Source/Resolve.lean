import DataGrid.Column
import DataGrid.Source
import DataGrid.Source.Pattern

/-!
# From keys to expressions

A column is named by a key, and a statement needs an expression.  The source is
free text, so beyond an explicit expression the answer is read off that text:
the expression that the SELECT list gives the key's name to, else a qualified
column with the key's name, else the key behind the name by which the FROM
clause addresses its first table, else the key itself.
-/

namespace DataGrid.Source

/-- Words that may stand behind the first table without being its alias. -/
def fromKeywords : List String :=
  ["join", "left", "right", "inner", "outer", "full", "cross", "natural",
    "where", "on", "group", "order", "limit", "union"]

/-- An item of a SELECT list ends at a comma or at white space. -/
def endsItem (character : Char) : Bool :=
  character == ',' || Text.isBlank character

/-- The name by which the FROM clause addresses its first table, when that is
not a query of its own. -/
def qualifier? (source : Source) : Option String :=
  let characters := (Text.trim source.from_).toList
  let ownName := ((tableAlias true characters).map fun found =>
    String.ofList found.name).filter fun name =>
      !fromKeywords.contains (Text.lower name)
  ownName.or ((leadingWord characters).map String.ofList)

/-- The expression that a key stands for. -/
def resolveKey (source : Source) (key : String) : String :=
  let fields := source.fields.toList
  match findNamed aliased key endsItem true fields with
  | some found => String.ofList found.expression
  | none =>
      match findNamed qualified key endsItem true fields with
      | some found => String.ofList found.expression
      | none =>
          match source.qualifier? with
          | some qualifier => s!"{qualifier}.{key}"
          | none => key

def resolve (source : Source) (column : Column) : String :=
  match column.expression.filter (!Text.allBlank ·) with
  | some expression => expression
  | none => source.resolveKey column.key

def stripBraces (name : List Char) : List Char :=
  let isBrace (character : Char) := character == '\x7b' || character == '\x7d'
  ((name.dropWhile isBrace).reverse.dropWhile isBrace).reverse

/-- The table behind a qualifier: the one whose alias it is, else the qualifier
itself. -/
def tableOf (source : Source) (qualifier : String) : String :=
  let found := findNamed tableAlias qualifier Text.isBlank true
    source.from_.toList
  String.ofList (stripBraces
    ((found.map (·.expression)).getD qualifier.toList))

/-- The first word of the FROM clause, when that is not a query of its own. -/
def primaryTable? (source : Source) : Option String :=
  match (Text.trim source.from_).toList with
  | '(' :: _ => none
  | characters =>
      match characters.takeWhile fun character =>
          !(Text.isBlank character || character == ',') with
      | [] => none
      | word => some (String.ofList (stripBraces word))

end DataGrid.Source
