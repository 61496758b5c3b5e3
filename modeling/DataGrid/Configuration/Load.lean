import DataGrid.Configuration.Environment
import DataGrid.Configuration.File

/-!
# Loading a configuration

A server is configured by variables, which may come from its process or from
the lines of the file `.env` in its directory; those of the process win.  One
of them may name a file of settings.  The settings of the file come first, then
the other variables.
-/

namespace DataGrid.Configuration

abbrev Directory := List (String × String)

/-- A piece of a path that leads nowhere else. -/
def staysHere (piece : String) : Bool :=
  piece.isEmpty || piece == "."

/-- The text of the file that a path names.  The directory has no directories
of its own, so nothing but single dots may stand before the name. -/
def Directory.read? (directory : Directory) (path : String) : Option String :=
  match Text.splitAt '/' path with
  | [name] => directory.lookup name
  | "." :: rest =>
      match rest.dropWhile staysHere with
      | [name] => directory.lookup name
      | _ => none
  | _ => none

def readFile (directory : Directory) (path : String) :
    Except ConfigurationFault Configuration :=
  match directory.read? path with
  | none => .error (.unreadableFile path)
  | some text =>
      match ofText? text with
      | some configuration => .ok configuration
      | none => .error (.malformedFile path)

/-- The configuration of a server that is started in a directory with given
variables. -/
def load (directory : Directory) (process : Environment) :
    Except ConfigurationFault Configuration := do
  let fromFile := readEnvironment process
    ((directory.lookup ".env").getD "")
  let lookup (name : String) : Option String :=
    (process ++ fromFile).lookup name
  let start ←
    match lookup (variableStart ++ "CONFIG") with
    | some path => readFile directory path
    | none => .ok {}
  let (configuration, outcome) := start.applyEnvironment lookup
  outcome
  configuration.validate
  pure configuration

end DataGrid.Configuration
