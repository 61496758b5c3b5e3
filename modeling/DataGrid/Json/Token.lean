import DataGrid.Decimal.Numeral
import DataGrid.Json.Value

/-!
# The tokens of JSON text

The first half of reading: characters become tokens.  A text that breaks the
rules of the grammar gives no tokens at all.  Two faults are kept inside a
token instead, because a reader that skips a value does not look at them: a
number out of range, and a text whose escapes name half of a surrogate pair.
-/

namespace DataGrid.Json

/-- One token of JSON text. -/
inductive Token
  | openList
  | closeList
  | openObject
  | closeObject
  | comma
  | colon
  | word (value : Json)
  | number (value : Option Number)
  | text (value : Option String)

def significandLimit : Nat := 0xFFFFFFFFFFFFFFFF

def exponentLimit : Int := 0x7FFFFFFF

/-- Append digits to a significand until one does not fit; the count of the
digits taken comes with it. -/
def absorb (significand : Nat) : List Char → Nat × Nat
  | [] => (significand, 0)
  | digit :: rest =>
      let next := 10 * significand + (digit.toNat - 0x30)
      if next ≤ significandLimit then
        let (final, count) := absorb next rest
        (final, count + 1)
      else (significand, 0)

/-- A significand times a power of ten, rounded after each scaling.  A scaling
goes by at most `10 ^ 308`; a number beyond the finite range is refused. -/
def scaled (value : Double) (exponent : Int) : Option Double :=
  if exponent < -308 then
    if value.isZero then some value
    else
      scaled (value.div (Double.ofDecimal false 1 308)) (exponent + 308)
  else if exponent < 0 then
    some (value.div (Double.ofDecimal false 1 (-exponent)))
  else if exponent ≤ 308 then
    let product := value.mul (Double.ofDecimal false 1 exponent)
    if product.isFinite then some product else none
  else if value.isZero then some value
  else none
termination_by (-exponent).toNat
decreasing_by omega

/-- The number that the parts of a numeral name.  Digits alone name an integer
when it fits into sixty-four bits, signed or not, and is not the negative of
zero; everything else is a double precision number, whose significand keeps
the leading digits that fit into sixty-four bits. -/
def Number.ofNumeral (numeral : Decimal.Numeral) (hasFraction : Bool)
    (hasExponent : Bool) : Option Number :=
  let (significand, taken) := absorb 0 numeral.whole
  let dropped := numeral.whole.length - taken
  let exactly := dropped == 0
  if exactly && !hasFraction && !hasExponent &&
      !(numeral.negative &&
        (significand == 0 || !Decimal.fits (-(significand : Int)))) then
    some (.integer
      (if numeral.negative then -(significand : Int) else significand))
  else
    let (significand, places) := absorb significand numeral.fraction
    let written := Decimal.digitsValue numeral.exponent
    let start : Int := (dropped : Int) - places
    let magnitude :=
      if written ≤ exponentLimit then
        scaled (Double.ofInt significand)
          (max (-exponentLimit - 1) (min exponentLimit
            (if numeral.exponentNegative then start - written
              else start + written)))
      else if significand == 0 || numeral.exponentNegative then
        some Double.zero
      else none
    magnitude.map fun value =>
      .real (if numeral.negative then value.neg else value)

/-- The value of a hexadecimal digit of either case. -/
def hexValue (character : Char) : Option Nat :=
  if character.isDigit then some (character.toNat - 0x30)
  else if 'a' ≤ character && character ≤ 'f' then
    some (character.toNat - 0x57)
  else if 'A' ≤ character && character ≤ 'F' then
    some (character.toNat - 0x37)
  else none

def hexFour (first second third fourth : Char) : Option Nat := do
  let first ← hexValue first
  let second ← hexValue second
  let third ← hexValue third
  let fourth ← hexValue fourth
  pure (((first * 16 + second) * 16 + third) * 16 + fourth)

/-- One unit of a quoted text: a character, or a number that an escape gives
in four hexadecimal digits. -/
inductive Unit16
  | plain (character : Char)
  | escaped (code : Nat)

def shortEscape : Char → Option Char
  | '"' => some '"'
  | '\\' => some '\\'
  | '/' => some '/'
  | 'b' => some (Char.ofNat 0x08)
  | 'f' => some (Char.ofNat 0x0C)
  | 'n' => some '\n'
  | 'r' => some '\r'
  | 't' => some '\t'
  | _ => none

/-- The units up to the closing quotation mark, and the rest after it. -/
def takeUnits : List Char → Option (List Unit16 × List Char)
  | [] => none
  | '"' :: rest => some ([], rest)
  | '\\' :: 'u' :: first :: second :: third :: fourth :: rest => do
      let code ← hexFour first second third fourth
      let (units, remaining) ← takeUnits rest
      pure (.escaped code :: units, remaining)
  | '\\' :: letter :: rest => do
      let character ← shortEscape letter
      let (units, remaining) ← takeUnits rest
      pure (.plain character :: units, remaining)
  | character :: rest =>
      if character.toNat < 0x20 || character == '\\' then none
      else do
        let (units, remaining) ← takeUnits rest
        pure (.plain character :: units, remaining)

/-- The characters that units stand for.  A high surrogate has to be followed
by a low one; any other half of a pair makes the text meaningless. -/
def ofUnits : List Unit16 → Option (List Char)
  | [] => some []
  | .plain character :: rest => (ofUnits rest).map (character :: ·)
  | .escaped code :: rest =>
      if code < 0xD800 || 0xDFFF < code then
        (ofUnits rest).map (Char.ofNat code :: ·)
      else if 0xDC00 ≤ code then none
      else
        match rest with
        | .escaped low :: rest =>
            if 0xDC00 ≤ low && low ≤ 0xDFFF then
              (ofUnits rest).map
                (Char.ofNat (0x10000 + (code - 0xD800) * 0x400 +
                  (low - 0xDC00)) :: ·)
            else none
        | _ => none

/-- A number at the front of a text, and the rest.  No digit follows a leading
zero, and a point or an exponent mark needs digits after it. -/
def takeNumber (characters : List Char) :
    Option (Option Number × List Char) := do
  let (negative, unsigned) :=
    match characters with
    | '-' :: rest => (true, rest)
    | rest => (false, rest)
  let (whole, afterWhole) := Decimal.Numeral.takeDigits unsigned
  guard (!whole.isEmpty && (whole.length == 1 || whole.head? != some '0'))
  let hasFraction := afterWhole.head? == some '.'
  let (fraction, afterFraction) := Decimal.Numeral.takeFraction afterWhole
  guard (!hasFraction || !fraction.isEmpty)
  let hasExponent := afterFraction.head? == some 'e' ||
    afterFraction.head? == some 'E'
  let (exponentNegative, exponent, rest) :=
    Decimal.Numeral.takeExponent afterFraction
  guard (!hasExponent || !exponent.isEmpty)
  pure (Number.ofNumeral
    { negative, whole, fraction, exponentNegative, exponent }
    hasFraction hasExponent, rest)

/-- One token at the front of a text that does not begin with a blank. -/
def takeToken (character : Char) (rest : List Char) :
    Option (Token × List Char) :=
  match character with
  | '[' => some (.openList, rest)
  | ']' => some (.closeList, rest)
  | '\x7b' => some (.openObject, rest)
  | '\x7d' => some (.closeObject, rest)
  | ',' => some (.comma, rest)
  | ':' => some (.colon, rest)
  | '"' => do
      let (units, remaining) ← takeUnits rest
      pure (.text ((ofUnits units).map String.ofList), remaining)
  | 'n' => do
      guard (['u', 'l', 'l'].isPrefixOf rest)
      pure (.word .null, rest.drop 3)
  | 't' => do
      guard (['r', 'u', 'e'].isPrefixOf rest)
      pure (.word (.bool true), rest.drop 3)
  | 'f' => do
      guard (['a', 'l', 's', 'e'].isPrefixOf rest)
      pure (.word (.bool false), rest.drop 4)
  | character => do
      let (value, remaining) ← takeNumber (character :: rest)
      pure (.number value, remaining)

def isSpace (character : Char) : Bool :=
  character == ' ' || character == '\t' || character == '\n' ||
    character == '\r'

def tokensWithin : Nat → List Char → Option (List Token)
  | _, [] => some []
  | 0, _ :: _ => none
  | fuel + 1, character :: rest =>
      if isSpace character then tokensWithin fuel rest
      else do
        let (token, remaining) ← takeToken character rest
        let tokens ← tokensWithin fuel remaining
        pure (token :: tokens)

/-- All tokens of a text.  A token takes at least one character, so as many
steps as there are characters suffice. -/
def tokens (characters : List Char) : Option (List Token) :=
  tokensWithin characters.length characters

end DataGrid.Json
