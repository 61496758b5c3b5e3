import DataGrid.Decimal.Integer
import DataGrid.Text.Ascii
import DataGrid.Text.Blank
import Std.Data.HashMap

/-!
# The words of a statement

A statement is cut into words, numbers, quoted texts, placeholders and marks.
Names and keywords are compared without regard to the case of ASCII letters, so
words are kept in small letters.  Placeholders are numbered: each question mark
has a number of its own, and a name has the same number wherever it stands.
-/

namespace DataGrid.Database

/-- One word of a statement. -/
inductive Lexeme
  | word (name : String)
  | number (value : Nat)
  | quoted (text : String)
  | parameter (number : Nat)
  | mark (characters : String)
deriving DecidableEq, Repr

/-- The placeholders of a statement: how many there are, and the numbers of
those that have a name. -/
structure Placeholders where
  count : Nat := 0
  numbers : Std.HashMap String Nat := {}

namespace Placeholders

def add (placeholders : Placeholders) : Nat × Placeholders :=
  (placeholders.count, { placeholders with count := placeholders.count + 1 })

/-- The number of a named placeholder, and all placeholders with it. -/
def place (placeholders : Placeholders) (name : String) :
    Nat × Placeholders :=
  match placeholders.numbers[name]? with
  | some number => (number, placeholders)
  | none =>
      (placeholders.count, {
        count := placeholders.count + 1
        numbers := placeholders.numbers.insert name placeholders.count })

end Placeholders

/-- The text up to the closing quotation mark, a doubled one standing for
itself, and the rest behind it. -/
def takeQuoted : List Char → Option (List Char × List Char)
  | [] => none
  | '\'' :: '\'' :: rest =>
      (takeQuoted rest).map fun (text, rest) => ('\'' :: text, rest)
  | '\'' :: rest => some ([], rest)
  | character :: rest =>
      (takeQuoted rest).map fun (text, rest) => (character :: text, rest)

def takeMark : List Char → Option (String × List Char)
  | '<' :: '=' :: rest => some ("<=", rest)
  | '>' :: '=' :: rest => some (">=", rest)
  | '<' :: '>' :: rest => some ("<>", rest)
  | character :: rest =>
      if ['(', ')', ',', '.', '=', '<', '>', '*'].contains character then
        some (character.toString, rest)
      else none
  | [] => none

/-- One word at the front of a text that does not begin with white space, the
rest behind it, and the placeholders with it. -/
def takeLexeme (placeholders : Placeholders) (characters : List Char) :
    Option (Lexeme × List Char × Placeholders) :=
  match characters with
  | [] => none
  | '?' :: rest =>
      let (number, placeholders) := placeholders.add
      some (.parameter number, rest, placeholders)
  | ':' :: rest =>
      match rest.takeWhile Text.continuesIdentifier with
      | [] => none
      | name =>
          let (number, placeholders) :=
            placeholders.place (String.ofList name)
          some (.parameter number, rest.dropWhile Text.continuesIdentifier,
            placeholders)
  | '\'' :: rest => do
      let (text, rest) ← takeQuoted rest
      pure (.quoted (String.ofList text), rest, placeholders)
  | first :: rest =>
      if first.isDigit then
        some (.number (Decimal.digitsValue
            (first :: rest.takeWhile Char.isDigit)),
          rest.dropWhile Char.isDigit, placeholders)
      else if Text.startsIdentifier first then
        let name := first :: rest.takeWhile Text.continuesIdentifier
        some (.word (Text.lower (String.ofList name)),
          rest.dropWhile Text.continuesIdentifier, placeholders)
      else do
        let (mark, rest) ← takeMark characters
        pure (.mark mark, rest, placeholders)

/-- The words of a text, the fuel bounding their number. -/
def lexemesWithin : Nat → Placeholders → List Char →
    Option (List Lexeme × Placeholders)
  | _, placeholders, [] => some ([], placeholders)
  | 0, _, _ :: _ => none
  | fuel + 1, placeholders, character :: rest =>
      if Text.isBlank character then lexemesWithin fuel placeholders rest
      else do
        let (lexeme, rest, placeholders) ←
          takeLexeme placeholders (character :: rest)
        let (lexemes, placeholders) ← lexemesWithin fuel placeholders rest
        pure (lexeme :: lexemes, placeholders)

def mostPlaceholders : Nat := 32766

/-- The words of a text, up to a null character, and its placeholders, unless
there are too many.  A word takes at least one character. -/
def lexemes (text : String) : Option (List Lexeme × Placeholders) :=
  (lexemesWithin text.length {}
    (text.toList.takeWhile (·.toNat != 0))).filter
      (·.2.count ≤ mostPlaceholders)

end DataGrid.Database
