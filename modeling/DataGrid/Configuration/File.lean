import DataGrid.Configuration
import DataGrid.Json.Token

/-!
# Configuration files

A file gives settings as a JSON object, or as a list of values in the order of
the settings.  A setting that is missing keeps its default.  Fields of other
names are passed over whatever they hold; a setting that comes twice, or whose
value has the wrong type, spoils the file.
-/

namespace DataGrid.Configuration

open Json (Token)

abbrev Reader :=
  Configuration → List Token → Option (Configuration × List Token)

def readText (set : String → Configuration → Configuration) : Reader :=
  fun configuration tokens =>
    match tokens with
    | .text (some value) :: rest => some (set value configuration, rest)
    | _ => none

/-- The integer of sixty-four bits that a token is. -/
def integer? : Token → Option Int
  | .number (some (.integer value)) =>
      if Decimal.fits value then some value else none
  | _ => none

def readInteger (set : Int → Configuration → Configuration) : Reader :=
  fun configuration tokens =>
    match tokens with
    | token :: rest => (integer? token).map (set · configuration, rest)
    | [] => none

def readFlag (set : Bool → Configuration → Configuration) : Reader :=
  fun configuration tokens =>
    match tokens with
    | .word (.bool value) :: rest => some (set value configuration, rest)
    | _ => none

/-- The integers of a list after its first one, and the rest behind it. -/
def takeIntegers : List Token → Option (List Int × List Token)
  | .closeList :: rest => some ([], rest)
  | .comma :: token :: rest => do
      let value ← integer? token
      let (values, rest) ← takeIntegers rest
      pure (value :: values, rest)
  | _ => none

def readIntegers (set : List Int → Configuration → Configuration) : Reader :=
  fun configuration tokens =>
    match tokens with
    | .openList :: .closeList :: rest => some (set [] configuration, rest)
    | .openList :: rest =>
        (takeIntegers (.comma :: rest)).map fun (values, rest) =>
          (set values configuration, rest)
    | _ => none

def settings : List (String × Reader) := [
  ("bind_addr", readText fun value configuration =>
    { configuration with address := value }),
  ("db_path", readText fun value configuration =>
    { configuration with database := some value }),
  ("default_page_size", readInteger fun value configuration =>
    { configuration with pageSize := value }),
  ("page_size_options", readIntegers fun values configuration =>
    { configuration with pageSizes := values }),
  ("datetime_format", readText fun value configuration =>
    { configuration with dateFormat := value }),
  ("timezone", readText fun value configuration =>
    { configuration with timezone := value }),
  ("expose_traces", readFlag fun value configuration =>
    { configuration with exposeTraces := value }),
  ("log_filter", readText fun value configuration =>
    { configuration with log := value })]

mutual

/-- The rest behind a value of any kind, the fuel bounding the recursion. -/
def passValue : Nat → List Token → Option (List Token)
  | 0, _ => none
  | fuel + 1, tokens =>
      match tokens with
      | .word _ :: rest | .number _ :: rest | .text _ :: rest => some rest
      | .openList :: .closeList :: rest => some rest
      | .openList :: rest => passItems fuel rest
      | .openObject :: .closeObject :: rest => some rest
      | .openObject :: rest => passFields fuel rest
      | _ => none

def passItems : Nat → List Token → Option (List Token)
  | 0, _ => none
  | fuel + 1, tokens => do
      match ← passValue fuel tokens with
      | .comma :: rest => passItems fuel rest
      | .closeList :: rest => some rest
      | _ => none

def passFields : Nat → List Token → Option (List Token)
  | 0, _ => none
  | fuel + 1, .text _ :: .colon :: tokens => do
      match ← passValue fuel tokens with
      | .comma :: rest => passFields fuel rest
      | .closeObject :: rest => some rest
      | _ => none
  | _ + 1, _ => none

end

/-- Pass over a value.  Each step of the recursion but every other one takes a
token. -/
def pass (tokens : List Token) : Option (List Token) :=
  passValue (2 * tokens.length + 1) tokens

/-- Settings given by name, after the first one of an object; the names seen so
far come along, and the fuel bounds the number of fields. -/
def readNamed : Nat → List String → Configuration → List Token →
    Option Configuration
  | _, _, configuration, [.closeObject] => some configuration
  | fuel + 1, seen, configuration,
      .comma :: .text (some name) :: .colon :: tokens =>
      match settings.lookup name with
      | some reader =>
          if seen.contains name then none
          else do
            let (configuration, rest) ← reader configuration tokens
            readNamed fuel (name :: seen) configuration rest
      | none => do readNamed fuel seen configuration (← pass tokens)
  | _, _, _, _ => none

/-- Settings given by their order, after the first one of a list. -/
def readOrdered : List (String × Reader) → Configuration → List Token →
    Option Configuration
  | _, configuration, [.closeList] => some configuration
  | (_, reader) :: settings, configuration, .comma :: tokens => do
      let (configuration, rest) ← reader configuration tokens
      readOrdered settings configuration rest
  | _, _, _ => none

def ofTokens? : List Token → Option Configuration
  | [.openObject, .closeObject] => some {}
  | .openObject :: rest => readNamed rest.length [] {} (.comma :: rest)
  | [.openList, .closeList] => some {}
  | .openList :: rest => readOrdered settings {} (.comma :: rest)
  | _ => none

def ofText? (text : String) : Option Configuration := do
  ofTokens? (← Json.tokens text.toList)

end DataGrid.Configuration
