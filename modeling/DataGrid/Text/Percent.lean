/-!
# Percent encoding

One component of an address.  ASCII letters, digits and `* - . _` stand for
themselves; every other byte of the text is written as a percent sign and two
capital hexadecimal digits, the space included, so the result is safe both in
the path and in the query of an address.
-/

namespace DataGrid.Text

/-- The capital hexadecimal digit of a number below sixteen. -/
def hexDigit (value : Nat) : Char :=
  if value < 10 then Char.ofNat (0x30 + value) else Char.ofNat (0x37 + value)

/-- The small hexadecimal digit of a number below sixteen. -/
def smallHexDigit (value : Nat) : Char :=
  if value < 10 then Char.ofNat (0x30 + value) else Char.ofNat (0x57 + value)

def isPlainByte (byte : UInt8) : Bool :=
  let character := Char.ofNat byte.toNat
  character.isAlphanum || character == '*' || character == '-' ||
    character == '.' || character == '_'

def percentByte (byte : UInt8) : List Char :=
  if isPlainByte byte then [Char.ofNat byte.toNat]
  else ['%', hexDigit (byte.toNat / 16), hexDigit (byte.toNat % 16)]

def percentEncode (text : String) : String :=
  String.ofList (text.toUTF8.toList.flatMap percentByte)

end DataGrid.Text
