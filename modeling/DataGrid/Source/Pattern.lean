import DataGrid.Text.Ascii
import DataGrid.Text.Blank

/-!
# Patterns in free SQL

A source's SELECT list and FROM clause are free text.  A pattern looks at one
place of such a text and finds there a qualified column with a name, or a table
with an alias.  `findNamed` goes through a text from the front and returns what
is found at the first place where the name is the one that is wanted.
-/

namespace DataGrid.Source

/-- What a pattern finds at one place: an expression, the name it goes by, and
the text after the name. -/
structure Found where
  expression : List Char
  name : List Char
  rest : List Char
deriving DecidableEq, Repr

/-- A pattern is tried at a place, knowing whether the place is the very
beginning of the text. -/
abbrev Pattern := Bool → List Char → Option Found

def isBreak (character : Char) : Bool :=
  Text.isBlank character || character == ',' || character == '(' ||
    character == ')'

def isNameBreak (character : Char) : Bool :=
  isBreak character || character == '.'

/-- The longest run of characters at the front that do not satisfy the test,
and the rest.  An empty run is none. -/
def takeUntil (stops : Char → Bool) (characters : List Char) :
    Option (List Char × List Char) :=
  match characters.takeWhile (!stops ·) with
  | [] => none
  | run => some (run, characters.dropWhile (!stops ·))

/-- The rest after white space, of which there has to be some. -/
def skipBlanks : List Char → Option (List Char)
  | [] => none
  | character :: rest =>
      if Text.isBlank character then some (Text.trimStart rest) else none

/-- The rest after the word AS in any case of its letters, and the white space
behind it.  The long s counts as an s. -/
def skipAs : List Char → Option (List Char)
  | first :: second :: rest =>
      if (first == 'a' || first == 'A') &&
          (second == 's' || second == 'S' || second == 'ſ') then
        skipBlanks rest
      else none
  | _ => none

/-- A qualified column: two parts with a point between them. -/
def takeQualified (characters : List Char) :
    Option (List Char × List Char × List Char) := do
  let (qualifier, rest) ← takeUntil isNameBreak characters
  match rest with
  | '.' :: rest =>
      let (column, rest) ← takeUntil isNameBreak rest
      pure (qualifier, column, rest)
  | _ => none

/-- Try a pattern for an item where an item can begin: at the beginning of the
text, or behind one of the characters between items. -/
def atItem (separates : Char → Bool) (item : List Char → Option Found) :
    Pattern :=
  fun atStart characters =>
    let behind :=
      match characters with
      | character :: rest => if separates character then item rest else none
      | [] => none
    if atStart then (item characters).or behind else behind

def aliasedItem (characters : List Char) : Option Found := do
  let (qualifier, column, rest) ← takeQualified characters
  let rest ← skipBlanks rest
  let rest ← skipAs rest
  let (name, rest) ← takeUntil isBreak rest
  pure { expression := qualifier ++ '.' :: column, name, rest }

/-- `qualifier.column AS name` in a SELECT list. -/
def aliased : Pattern :=
  atItem isBreak aliasedItem

def qualifiedItem (characters : List Char) : Option Found := do
  let (qualifier, name, rest) ← takeQualified characters
  pure { expression := qualifier ++ '.' :: name, name, rest }

/-- `qualifier.name` in a SELECT list. -/
def qualified : Pattern :=
  atItem (fun character => Text.isBlank character || character == ',')
    qualifiedItem

/-- `table alias` or `table AS alias`. -/
def tableAlias : Pattern :=
  fun _ characters => do
    let (table, rest) ← takeUntil isBreak characters
    let rest ← skipBlanks rest
    let named := (skipAs rest).bind (takeUntil isBreak)
    let (name, rest) ← named.or (takeUntil isBreak rest)
    pure { expression := table, name, rest }

/-- A clause that is one word up to its end or to white space. -/
def leadingWord (characters : List Char) : Option (List Char) :=
  match takeUntil isBreak characters with
  | some (word, []) => some word
  | some (word, character :: _) =>
      if Text.isBlank character then some word else none
  | none => none

/-- What a pattern finds at the first place where it finds anything, with the
text from that place on. -/
def firstFound (pattern : Pattern) (atStart : Bool) :
    List Char → Option (Found × List Char)
  | [] => (pattern atStart []).map (·, [])
  | character :: rest =>
      match pattern atStart (character :: rest) with
      | some found => some (found, character :: rest)
      | none => firstFound pattern false rest

theorem length_of_firstFound {pattern : Pattern} {atStart : Bool}
    {characters place : List Char} {found : Found}
    (first : firstFound pattern atStart characters = some (found, place)) :
    place.length ≤ characters.length := by
  induction characters generalizing atStart with
  | nil =>
      simp only [firstFound, Option.map_eq_some_iff, Prod.mk.injEq] at first
      obtain ⟨_, -, -, rfl⟩ := first
      simp
  | cons character rest ih =>
      simp only [firstFound] at first
      split at first
      · simp only [Option.some.injEq, Prod.mk.injEq] at first
        obtain ⟨-, rfl⟩ := first
        simp
      · have := ih first
        simp only [List.length_cons]
        omega

/-- The wanted name is the one found, up to the case of ASCII letters, and the
name ends where it may. -/
def Found.accepts (found : Found) (wanted : String) (ends : Char → Bool) :
    Bool :=
  (match found.rest with
    | [] => true
    | next :: _ => ends next) &&
    Text.sameLetters (String.ofList found.name) wanted

/-- What a pattern finds at the first place where the name is accepted.  After
a place that is refused the search goes on behind its first character, so
finds that overlap a refused one are not missed. -/
def findNamed (pattern : Pattern) (wanted : String) (ends : Char → Bool)
    (atStart : Bool) (characters : List Char) : Option Found :=
  match _first : firstFound pattern atStart characters with
  | none => none
  | some (found, []) => if found.accepts wanted ends then some found else none
  | some (found, _ :: rest) =>
      if found.accepts wanted ends then some found
      else findNamed pattern wanted ends false rest
termination_by characters.length
decreasing_by
  have := length_of_firstFound (by assumption)
  simp only [List.length_cons] at this
  omega

end DataGrid.Source
