import DataGrid.Engine.Program

/-!
# Finding the types of columns

Columns without a declared type are looked up in the database's schema.  The
look-up never fails: a table or column that is not there, a declaration that
says nothing, and an engine that fails all leave the type unknown.  Every table
is asked for once.
-/

namespace DataGrid

/-- The declarations of the tables that have been asked for; a failure leaves
none. -/
abbrev KnownTables := List (String × List ColumnDeclaration)

namespace Columns

/-- The declarations of a table, from those known or from the engine. -/
def declarationsOf (known : KnownTables) (table : String) :
    Program (List ColumnDeclaration × KnownTables) :=
  match known.lookup table with
  | some declarations => pure (declarations, known)
  | none => do
      let answer ← Program.attempt (.declarations table)
      let declarations := answer.toOption.getD []
      pure (declarations, (table, declarations) :: known)

def typeOf (source : Source) (known : KnownTables) (column : Column) :
    Program (DataType × KnownTables) :=
  match column.dataType, source.declarationOf column with
  | some declared, _ => pure (declared, known)
  | none, none => pure (.unknown, known)
  | none, some (table, name) => do
      let (declarations, known) ← declarationsOf known table
      pure (typeIn declarations name, known)

def typesFrom (source : Source) (known : KnownTables) :
    Columns → Program ColumnTypes
  | [] => pure []
  | column :: rest => do
      let (type, known) ← typeOf source known column
      let types ← typesFrom source known rest
      pure ((column.key, type) :: types)

def types (columns : Columns) (source : Source) : Program ColumnTypes :=
  typesFrom source [] columns

end Columns

end DataGrid
