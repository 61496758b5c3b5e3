import DataGrid.Decimal.Numeral
import DataGrid.Text.Blank

/-!
# Numbers as clients type them

A client writes a thousand and a half as `1.000,5`.  Such input is brought into
the form of a numeral, and of any text the numeral at its front is taken.
-/

namespace DataGrid.Filter

/-- Typed input as a numeral: points separate thousands and are dropped, the
comma marks the fraction and becomes a point. -/
def normalizeNumber (text : String) : String :=
  String.ofList ((text.toList.filter (· != '.')).map fun character =>
    if character == ',' then '.' else character)

/-- The number at the front of a text, or zero when there is none. -/
def leadingNumber (text : String) : Double :=
  match Decimal.Numeral.take (Text.trimStart text.toList) with
  | some (numeral, _) => numeral.toDouble
  | none => .zero

end DataGrid.Filter
