import DataGrid.Error
import DataGrid.Text.Ascii

/-!
# Dialects

Three databases say the same things differently: a pattern match without regard
to case, a value as text, and a moment in time as text.  The date formats that
tables use have the specifiers of `strftime`; each dialect spells the ones it
knows in its own way and refuses the others.
-/

namespace DataGrid.Sql

/-- The databases that statements are written for. -/
inductive Dialect
  | sqlite
  | postgres
  | mysql
deriving DecidableEq, Repr

/-- The characters of a pattern that stand for others, and the escape itself. -/
def isWildcard (character : Char) : Bool :=
  character == '\\' || character == '%' || character == '_'

/-- Mark the wildcards of a text, so that a pattern matches them literally. -/
def escapeLike (characters : List Char) : List Char :=
  characters.flatMap fun character =>
    if isWildcard character then ['\\', character] else [character]

def stripQuotes (text : String) : String :=
  String.ofList (text.toList.filter fun character =>
    character != '\'' && character != '"')

def isLocal (timezone : String) : Bool :=
  Text.sameLetters timezone "localtime"

/-- A time zone as an offset when it is UTC, and as it is otherwise. -/
def fixedZone (timezone : String) : String :=
  if Text.sameLetters timezone "utc" then "+00:00" else timezone

namespace Dialect

/-- A match of an expression against the placeholder of a pattern, without
regard to case, the wildcards of the pattern being escaped with a backslash. -/
def likeText (dialect : Dialect) (expression place : String)
    (negate : Bool) : String :=
  let no := if negate then "NOT " else ""
  match dialect with
  | sqlite => s!"LOWER({expression}) {no}LIKE LOWER({place}) ESCAPE '\\'"
  | postgres => s!"{expression} {no}ILIKE {place} ESCAPE '\\'"
  | mysql => s!"LOWER({expression}) {no}LIKE LOWER({place}) ESCAPE '\\\\'"

def castToText (dialect : Dialect) (expression : String) : String :=
  match dialect with
  | sqlite => s!"CAST({expression} AS TEXT)"
  | postgres => s!"CAST({expression} AS VARCHAR)"
  | mysql => s!"CAST({expression} AS CHAR)"

/-- The dialect's own spelling of a date specifier, when it has one. -/
def specifier? (dialect : Dialect) (letter : Char) : Option String :=
  match dialect, letter with
  | sqlite, 'Y' | mysql, 'Y' => some "%Y"
  | sqlite, 'd' | mysql, 'd' => some "%d"
  | sqlite, 'm' | mysql, 'm' => some "%m"
  | sqlite, 'H' | mysql, 'H' => some "%H"
  | sqlite, 'w' | mysql, 'w' => some "%w"
  | sqlite, '%' | mysql, '%' => some "%%"
  | sqlite, 'M' => some "%M"
  | sqlite, 's' | sqlite, 'S' => some "%S"
  | mysql, 'M' => some "%i"
  | mysql, 's' | mysql, 'S' => some "%s"
  | postgres, 'Y' => some "YYYY"
  | postgres, 'd' => some "DD"
  | postgres, 'm' => some "MM"
  | postgres, 'H' => some "HH24"
  | postgres, 'M' => some "MI"
  | postgres, 's' | postgres, 'S' => some "SS"
  | postgres, 'w' => some "D"
  | _, _ => none

/-- Why a date format has no spelling in a dialect. -/
inductive FormatFault
  | dangling
  | unknown

/-- A date format in the dialect's spelling.  Quotation marks are dropped,
because the result stands between them. -/
def respell (dialect : Dialect) :
    List Char → Except FormatFault (List Char)
  | [] => .ok []
  | ['%'] => .error .dangling
  | '%' :: letter :: rest =>
      match dialect.specifier? letter with
      | none => .error .unknown
      | some spelling => do
          pure (spelling.toList ++ (← dialect.respell rest))
  | character :: rest => do
      let spelled ← dialect.respell rest
      pure (if character == '\'' then spelled else character :: spelled)

/-- A date format in the dialect's spelling, or the fault of the table. -/
def dateFormat (dialect : Dialect) (format : String) : Except Error String :=
  match dialect.respell format.toList with
  | .ok spelled => .ok (String.ofList spelled)
  | .error .dangling => .error (.table (.danglingPercent format))
  | .error .unknown => .error (.table (.unknownSpecifier format))

/-- A column of seconds since the epoch as text, so that it can be searched in
the form in which it is shown. -/
def formatTimestamp (dialect : Dialect) (column format timezone : String) :
    Except Error String := do
  let zone := stripQuotes timezone
  let format ← dialect.dateFormat format
  match dialect with
  | sqlite =>
      let modifier := if isLocal zone then ", 'localtime'" else ""
      pure (s!"CASE WHEN {column} > 0 THEN strftime('{format}', {column}, " ++
        s!"'unixepoch'{modifier}) ELSE '' END")
  | postgres =>
      let moment :=
        if isLocal zone then s!"TO_TIMESTAMP({column})"
        else s!"TO_TIMESTAMP({column}) AT TIME ZONE '{fixedZone zone}'"
      pure s!"TO_CHAR({moment}, '{format}')"
  | mysql =>
      let moment :=
        if isLocal zone then s!"FROM_UNIXTIME({column})"
        else s!"CONVERT_TZ(FROM_UNIXTIME({column}), @@session.time_zone, " ++
          s!"'{fixedZone zone}')"
      pure s!"IF({column} > 0, DATE_FORMAT({moment}, '{format}'), '')"

end Dialect

end DataGrid.Sql
