import DataGrid.Decimal.Integer
import DataGrid.Dispatch
import DataGrid.Text.Ascii
import DataGrid.Text.Blank

/-!
# The configuration of a server

Where a server listens, which database it opens, and how its grids behave.
Every setting has a default, and the environment can change each of them.
-/

namespace DataGrid

/-- The settings of a server. -/
structure Configuration where
  address : String := "127.0.0.1:3000"
  /-- The path of the database; without one the user's own place for data is
  taken. -/
  database : Option String := none
  pageSize : Int := 50
  pageSizes : List Int := defaultPageSizes
  dateFormat : String := "%d.%m.%Y %H:%M"
  timezone : String := "UTC"
  /-- Every caller counts as privileged. -/
  exposeTraces : Bool := false
  log : String := "sqlgrid=info,tower_http=info"
deriving DecidableEq, Repr

/-- What can be wrong with a configuration. -/
inductive ConfigurationFault
  | unreadableFile (path : String)
  | malformedFile (path : String)
  | pageSizeNotInteger (value : String)
  | pageSizesNotInteger (item : String)
  | exposeTracesNotFlag (value : String)
  | pageSizeTooSmall
  | pageSizesTooSmall
  | unknownTimezone (name : String)
deriving DecidableEq, Repr

/-- The names of all variables begin with this. -/
def variableStart : String := "SQLGRID_"

def ConfigurationFault.message : ConfigurationFault → String
  | unreadableFile path => s!"failed to read config: {path}"
  | malformedFile path => s!"failed to parse config: {path}"
  | pageSizeNotInteger value =>
      s!"invalid {variableStart}DEFAULT_PAGE_SIZE: {value}"
  | pageSizesNotInteger item =>
      s!"invalid {variableStart}PAGE_SIZE_OPTIONS entry: {item}"
  | exposeTracesNotFlag value =>
      s!"invalid {variableStart}EXPOSE_TRACES: {value}"
  | pageSizeTooSmall => "default_page_size must be greater than zero"
  | pageSizesTooSmall => "page_size_options must be greater than zero"
  | unknownTimezone name => s!"timezone must be UTC or localtime, got {name}"

namespace Configuration

abbrev Setter :=
  String → Configuration → Except ConfigurationFault Configuration

/-- The truth value that a word stands for. -/
def flag? (value : String) : Option Bool :=
  let word := Text.lower (Text.trim value)
  if ["1", "true", "yes", "on"].contains word then some true
  else if ["0", "false", "no", "off"].contains word then some false
  else none

def setPageSize : Setter := fun value configuration =>
  match Decimal.readInteger (Text.trim value) with
  | some size => .ok { configuration with pageSize := size }
  | none => .error (.pageSizeNotInteger value)

def readSizes : List String → Except ConfigurationFault (List Int)
  | [] => .ok []
  | item :: rest =>
      match Decimal.readInteger item with
      | some size => do pure (size :: (← readSizes rest))
      | none => .error (.pageSizesNotInteger item)

def setPageSizes : Setter := fun value configuration => do
  let items := ((Text.splitAt ',' value).map Text.trim).filter (!·.isEmpty)
  pure { configuration with pageSizes := ← readSizes items }

def setExposeTraces : Setter := fun value configuration =>
  match flag? value with
  | some flag => .ok { configuration with exposeTraces := flag }
  | none => .error (.exposeTracesNotFlag value)

/-- The variables and what they set, in the order in which they are looked
at. -/
def settable : List (String × Setter) := [
  ("BIND_ADDR", fun value configuration =>
    .ok { configuration with address := value }),
  ("DB_PATH", fun value configuration =>
    .ok { configuration with database := some value }),
  ("DEFAULT_PAGE_SIZE", setPageSize),
  ("PAGE_SIZE_OPTIONS", setPageSizes),
  ("DATETIME_FORMAT", fun value configuration =>
    .ok { configuration with dateFormat := value }),
  ("TIMEZONE", fun value configuration =>
    .ok { configuration with timezone := value }),
  ("EXPOSE_TRACES", setExposeTraces),
  ("LOG", fun value configuration => .ok { configuration with log := value })]

/-- Apply variables one after another.  A blank one changes nothing; the first
one that is wrong ends it, and what was set before stays. -/
def applyVariables (lookup : String → Option String)
    (configuration : Configuration) :
    List (String × Setter) → Configuration × Except ConfigurationFault Unit
  | [] => (configuration, .ok ())
  | (name, setter) :: rest =>
      match (lookup (variableStart ++ name)).filter (!Text.allBlank ·) with
      | none => applyVariables lookup configuration rest
      | some value =>
          match setter value configuration with
          | .ok changed => applyVariables lookup changed rest
          | .error fault => (configuration, .error fault)

def applyEnvironment (configuration : Configuration)
    (lookup : String → Option String) :
    Configuration × Except ConfigurationFault Unit :=
  applyVariables lookup configuration settable

def validate (configuration : Configuration) :
    Except ConfigurationFault Unit :=
  if configuration.pageSize ≤ 0 then .error .pageSizeTooSmall
  else if configuration.pageSizes.any (· ≤ 0) then .error .pageSizesTooSmall
  else if Text.sameLetters configuration.timezone "utc" ||
      Text.sameLetters configuration.timezone "localtime" then .ok ()
  else .error (.unknownTimezone configuration.timezone)

def gridSettings (configuration : Configuration) : GridSettings where
  dateFormat := configuration.dateFormat
  timezone := configuration.timezone
  pageSizeOptions := configuration.pageSizes

end Configuration

end DataGrid
