/-!
# Text inside markup

The five characters that mean something to a markup reader are written as
entities, so that data can neither open an element nor leave an attribute.
-/

namespace DataGrid.Text

def entity : Char → List Char
  | '&' => "&amp;".toList
  | '<' => "&lt;".toList
  | '>' => "&gt;".toList
  | '"' => "&quot;".toList
  | '\'' => "&#39;".toList
  | character => [character]

/-- A text as it is written between tags or inside a quoted attribute. -/
def escapeMarkup (text : String) : String :=
  String.ofList (text.toList.flatMap entity)

end DataGrid.Text
