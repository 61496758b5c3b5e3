/-!
# White space

The white space of Unicode, and the trimming and the splitting that go by it.
Everything a client types is read through these functions, so a no-break space
pasted from elsewhere counts exactly as an ordinary one does.
-/

namespace DataGrid.Text

/-- The twenty-five characters that have Unicode's `White_Space` property. -/
def isBlank (character : Char) : Bool :=
  let code := character.toNat
  (0x09 ≤ code && code ≤ 0x0D) || code == 0x20 || code == 0x85 ||
    code == 0xA0 || code == 0x1680 || (0x2000 ≤ code && code ≤ 0x200A) ||
    code == 0x2028 || code == 0x2029 || code == 0x202F || code == 0x205F ||
    code == 0x3000

/-- The characters that remain after the white space at the front is dropped. -/
def trimStart (characters : List Char) : List Char :=
  characters.dropWhile isBlank

/-- The characters that remain after the white space at the back is dropped. -/
def trimEnd (characters : List Char) : List Char :=
  (characters.reverse.dropWhile isBlank).reverse

def trim (text : String) : String :=
  String.ofList (trimEnd (trimStart text.toList))

/-- A text is blank when it holds nothing but white space. -/
def allBlank (text : String) : Bool :=
  text.toList.all isBlank

/-- Cut at every character that satisfies the test; the cuts themselves are
dropped, and the pieces between two neighbouring cuts are empty. -/
def cut (isCut : Char → Bool) : List Char → List (List Char)
  | [] => [[]]
  | character :: rest =>
      if isCut character then [] :: cut isCut rest
      else
        match cut isCut rest with
        | [] => [[character]]
        | piece :: pieces => (character :: piece) :: pieces

def splitAt (separator : Char) (text : String) : List String :=
  (cut (· == separator) text.toList).map String.ofList

/-- The maximal runs of characters that are not white space. -/
def words (text : String) : List String :=
  ((cut isBlank text.toList).filter (!·.isEmpty)).map String.ofList

/-- Texts written one after another with a separator between neighbours. -/
def join (separator : String) : List String → String
  | [] => ""
  | [text] => text
  | text :: rest => text ++ separator ++ join separator rest

end DataGrid.Text
