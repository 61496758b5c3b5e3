import DataGrid.Decimal.Shortest
import DataGrid.Json.Value
import DataGrid.Text.Percent

/-!
# JSON as text

The compact text of a value: no blanks, fields in their order, characters
outside ASCII as they are.
-/

namespace DataGrid.Json

/-- How double precision numbers are spelled. -/
structure RealSpelling where
  /-- The least decimal exponent written in positional notation. -/
  leastPositional : Int
  /-- The greatest decimal exponent written in positional notation. -/
  greatestPositional : Int
  /-- The mark before the exponent in scientific notation. -/
  mark : Char

/-- Exponents from -5 to 15 are written positionally, always with a point;
beyond them a sign follows the mark. -/
def realSpelling : RealSpelling := ⟨-5, 15, 'e'⟩

def digitsOf (value : Nat) : List Char :=
  Nat.toDigits 10 value

def integerText (value : Int) : List Char :=
  if value < 0 then '-' :: digitsOf value.natAbs else digitsOf value.natAbs

/-- Digits with a point after the first `count` of them and at least one digit
on either side. -/
def pointed (digits : List Char) (count : Int) : List Char :=
  if count ≤ 0 then
    '0' :: '.' :: List.replicate (-count).toNat '0' ++ digits
  else if digits.length ≤ count.toNat then
    digits ++ List.replicate (count.toNat - digits.length) '0' ++ ['.', '0']
  else digits.take count.toNat ++ '.' :: digits.drop count.toNat

def magnitudeText (place : Nat) : List Char :=
  let (factor, grid) := Decimal.shortest place
  let digits := digitsOf factor
  let exponent : Int := grid + digits.length - 1
  if realSpelling.leastPositional ≤ exponent &&
      exponent ≤ realSpelling.greatestPositional then
    pointed digits (exponent + 1)
  else
    let significand :=
      match digits with
      | [digit] => [digit]
      | digits => pointed digits 1
    significand ++ realSpelling.mark ::
      (if exponent < 0 then '-' else '+') :: digitsOf exponent.natAbs

def realText (number : Double) : List Char :=
  let magnitude :=
    if number.isZero then ['0', '.', '0'] else magnitudeText number.place
  if number.negative then '-' :: magnitude else magnitude

def Number.characters : Number → List Char
  | .integer value => integerText value
  | .real value => realText value

def escapeCharacter : Char → List Char
  | '"' => ['\\', '"']
  | '\\' => ['\\', '\\']
  | '\n' => ['\\', 'n']
  | '\r' => ['\\', 'r']
  | '\t' => ['\\', 't']
  | character =>
      if character.toNat = 0x08 then ['\\', 'b']
      else if character.toNat = 0x0C then ['\\', 'f']
      else if character.toNat < 0x20 then
        ['\\', 'u', '0', '0', Text.smallHexDigit (character.toNat / 16),
          Text.smallHexDigit (character.toNat % 16)]
      else [character]

def quoted (text : String) : List Char :=
  '"' :: text.toList.flatMap escapeCharacter ++ ['"']

mutual

def characters : Json → List Char
  | .null => ['n', 'u', 'l', 'l']
  | .bool true => ['t', 'r', 'u', 'e']
  | .bool false => ['f', 'a', 'l', 's', 'e']
  | .number value => value.characters
  | .text value => quoted value
  | .list items => '[' :: itemCharacters items ++ [']']
  | .object fields => '\x7b' :: fieldCharacters fields ++ ['\x7d']

def itemCharacters : List Json → List Char
  | [] => []
  | [item] => item.characters
  | item :: rest => item.characters ++ ',' :: itemCharacters rest

def fieldCharacters : List (String × Json) → List Char
  | [] => []
  | [(name, value)] => quoted name ++ ':' :: value.characters
  | (name, value) :: rest =>
      quoted name ++ ':' :: value.characters ++ ',' :: fieldCharacters rest

end

def toText (value : Json) : String :=
  String.ofList value.characters

end DataGrid.Json
