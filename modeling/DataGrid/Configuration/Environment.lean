import DataGrid.Text.Ascii
import DataGrid.Text.Blank

/-!
# Environment files

A text whose lines set variables: a name, an equals sign and a value.  A value
may hold quoted parts, which may go on over several lines, characters marked
with a backslash, and references to variables that are set already.  A comment
begins with a number sign at the front of a line or behind white space.
`readEnvironment` goes as far as lines can be read.
-/

namespace DataGrid.Configuration

/-- Variables by their names; of a name that comes twice the first counts. -/
abbrev Environment := List (String × String)

/-- Where the search for the end of a line stands. -/
inductive LineState
  | plain
  /-- Behind white space, where a comment may begin. -/
  | gap
  /-- Behind a backslash. -/
  | marked
  | weak
  | weakMarked
  | strong
  | strongMarked
deriving DecidableEq, Repr

def LineState.step : LineState → Char → LineState
  | .weak, '\\' => .weakMarked
  | .weak, '"' => .plain
  | .weak, _ | .weakMarked, _ => .weak
  | .strong, '\\' => .strongMarked
  | .strong, '\'' => .plain
  | .strong, _ | .strongMarked, _ => .strong
  | .marked, _ => .plain
  | _, '\\' => .marked
  | _, '"' => .weak
  | _, '\'' => .strong
  | .gap, _ | .plain, '\n' | .plain, '\r' => .plain
  | .plain, character => if Text.isBlank character then .gap else .plain

def behindLine (characters : List Char) : List Char :=
  (characters.dropWhile (· != '\n')).drop 1

/-- Take a line off the front, without its comment: it ends at the first line
break where no quotation mark and no backslash is open.  A text that ends while
one is open, or behind a single blank, has no line. -/
def takeLine : LineState → List Char → Option (List Char × List Char)
  | .plain, [] => some ([], [])
  | _, [] => none
  | .gap, '#' :: rest => some ([], behindLine rest)
  | state, character :: rest =>
      let next := state.step character
      if character == '\n' && next = .plain then some ([], rest)
      else do
        let (line, rest) ← takeLine next rest
        pure (character :: line, rest)

/-- Where the reading of a value stands.  Marks and references go back to where
they came from, inside double quotation marks or outside. -/
inductive ValueState
  | plain
  | weak
  | strong
  | marked (inside : Bool)
  /-- Behind a dollar sign, with the ASCII letters and digits since. -/
  | reference (inside : Bool) (name : List Char)
  /-- Behind a dollar sign and a brace, with the characters since. -/
  | braced (inside : Bool) (name : List Char)
  /-- Behind the value. -/
  | ended
deriving DecidableEq, Repr

def ValueState.ofInside (inside : Bool) : ValueState :=
  if inside then .weak else .plain

def marked? : Char → Option Char
  | 'n' => some '\n'
  | character =>
      if ['\\', '\'', '"', '$', ' '].contains character then some character
      else none

/-- A blank that ends a value. -/
def isGap (character : Char) : Bool :=
  character == ' ' || character == '\t'

/-- Read one more character of a value: what it adds to the value, and the
state behind it. -/
def ValueState.step (lookup : List Char → List Char) (character : Char) :
    ValueState → Option (List Char × ValueState)
  | ended => if isGap character then some ([], .ended) else none
  | marked inside =>
      (marked? character).map fun meant => ([meant], .ofInside inside)
  | strong =>
      some (if character == '\'' then ([], .plain) else ([character], .strong))
  | reference inside name =>
      some (if character.isAlphanum then
          ([], .reference inside (name ++ [character]))
        else if character == '\x7b' && name.isEmpty then
          ([], .braced inside [])
        else if character == '$' then (lookup name, .reference inside [])
        else (lookup name ++ [character], .ofInside inside))
  | braced inside name =>
      some (if character == '\x7d' then (lookup name, .ofInside inside)
        else ([], .braced inside (name ++ [character])))
  | weak =>
      some (match character with
        | '$' => ([], .reference true [])
        | '"' => ([], .plain)
        | '\\' => ([], .marked true)
        | character => ([character], .weak))
  | plain =>
      some (match character with
        | '$' => ([], .reference false [])
        | '\'' => ([], .strong)
        | '"' => ([], .weak)
        | '\\' => ([], .marked false)
        | character =>
            if isGap character then ([], .ended) else ([character], .plain))

/-- What the end of the line adds to a value, when it may end there. -/
def ValueState.finish (lookup : List Char → List Char) :
    ValueState → Option (List Char)
  | plain | ended | marked false => some []
  | reference false name => some (lookup name)
  | _ => none

/-- Read a value.  Behind it only a comment may follow. -/
def readValue (lookup : List Char → List Char) :
    ValueState → List Char → Option (List Char)
  | state, [] => state.finish lookup
  | .ended, '#' :: _ => some []
  | state, character :: rest => do
      let (added, next) ← state.step lookup character
      pure (added ++ (← readValue lookup next rest))

/-- Characters of the name of a variable behind the first one. -/
def continuesName (character : Char) : Bool :=
  Text.continuesIdentifier character || character == '.'

/-- The name of a variable at the front of a line, and the rest behind the
white space after it. -/
def takeName (line : List Char) : Option (String × List Char) :=
  match line with
  | [] => none
  | first :: rest =>
      if Text.startsIdentifier first then
        some (String.ofList (first :: rest.takeWhile continuesName),
          Text.trimStart (rest.dropWhile continuesName))
      else none

/-- The variable that a line sets.  The word `export` may stand before its
name. -/
def readAssignment (known : Environment) (line : List Char) :
    Option (String × String) := do
  let lookup (name : List Char) : List Char :=
    ((known.lookup (String.ofList name)).getD "").toList
  let (name, rest) ← takeName line
  let (name, rest) ←
    match name, rest with
    | name, '=' :: _ => some (name, rest)
    | "export", rest => takeName rest
    | _, _ => none
  match rest with
  | '=' :: rest =>
      match Text.trimStart rest with
      | '#' :: _ => pure (name, "")
      | value => pure (name, String.ofList (← readValue lookup .plain value))
  | _ => none

/-- The variables that lines set, the known ones being those that values may
refer to and the fuel bounding the number of lines.  Blank lines and comments
set none, and a line that cannot be read ends the reading. -/
def readLines : Nat → Environment → List Char → Environment
  | 0, _, _ | _, _, [] => []
  | fuel + 1, known, characters =>
      match Text.trimStart (characters.takeWhile (· != '\n')) with
      | '#' :: _ => readLines fuel known (behindLine characters)
      | _ =>
          match takeLine .plain characters with
          | none => []
          | some (line, rest) =>
              match Text.trimStart (Text.trimEnd line) with
              | [] => readLines fuel known rest
              | line =>
                  match readAssignment known line with
                  | some assignment =>
                      assignment ::
                        readLines fuel (known ++ [assignment]) rest
                  | none => []

/-- The variables that a text sets where others are known.  A mark of the order
of bytes at its front does not count, and every line takes a character. -/
def readEnvironment (known : Environment) (text : String) : Environment :=
  match text.toList with
  | '\ufeff' :: characters => readLines characters.length known characters
  | characters => readLines characters.length known characters

end DataGrid.Configuration
