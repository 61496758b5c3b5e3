/-!
# Letters of ASCII

Names in SQL, identifiers and time zones are compared without regard to the
case of the ASCII letters.  Letters outside ASCII are left as they are, which
is also what the database's own `LOWER` does.
-/

namespace DataGrid.Text

def lower (text : String) : String :=
  String.ofList (text.toList.map Char.toLower)

/-- Equality of texts up to the case of their ASCII letters. -/
def sameLetters (first second : String) : Bool :=
  lower first == lower second

def startsIdentifier (character : Char) : Bool :=
  character.isAlpha || character == '_'

def continuesIdentifier (character : Char) : Bool :=
  character.isAlphanum || character == '_'

/-- An identifier is a letter or an underscore followed by letters, digits and
underscores. -/
def isIdentifier (text : String) : Bool :=
  match text.toList with
  | [] => false
  | first :: rest => startsIdentifier first && rest.all continuesIdentifier

def begins (start text : String) : Bool :=
  start.toList.isPrefixOf text.toList

def occurs (part : List Char) : List Char → Bool
  | [] => part.isEmpty
  | character :: rest =>
      part.isPrefixOf (character :: rest) || occurs part rest

end DataGrid.Text
