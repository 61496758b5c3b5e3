/-!
# What can go wrong

Every failure of a request names its cause.  A cause belongs to one of four
classes: the request broke the protocol, the caller lacks a permission, the
database engine failed, or the table was set up wrongly.  The wording of each
cause is in one place, here.
-/

namespace DataGrid

/-- Which part of the engine failed. -/
inductive EngineFailure.Kind
  | query
  | connection
  | schema
deriving DecidableEq, Repr

/-- A failure of the database engine: its message and the messages of its
causes, the outermost first. -/
structure EngineFailure where
  kind : EngineFailure.Kind
  message : String
  causes : List String := []
deriving DecidableEq, Repr

namespace EngineFailure

def Kind.name : Kind → String
  | .query => "query"
  | .connection => "connection"
  | .schema => "schema"

def describe (failure : EngineFailure) : String :=
  (match failure.kind with
    | .query => "query failed: "
    | .connection => "connection failed: "
    | .schema => "schema lookup failed: ") ++ failure.message

end EngineFailure

/-- The ways in which a request breaks the protocol. -/
inductive ProtocolFault
  | negativePage (page : Int)
  | pageSizeTooSmall (size : Int)
  | tableNotSet
  | unknownForm (id : String)
  | unknownFilterFunction (name : String)
  | otherTable (requested served : String)
  | missingParameter (name : String)
  | rowidWithoutId
  | rowidWithoutFields
  | invalidRowidField (name : String)
  | unknownAction (name : String)
  | filtersNotJson
  | invalidFilter
  | notAnInteger (name value : String)
  | invalidRowAction (id : String)
  | stated (text : String)
deriving DecidableEq, Repr

/-- The permissions that a caller can lack. -/
inductive PermissionFault
  | rowNotFound (id : String)
  | formRowNotFound
  | deleteForbidden (id : String)
  | downloadsDisabled
  | fieldFixed (field id : String)
  | stated (text : String)
deriving DecidableEq, Repr

/-- The ways in which a table is set up wrongly. -/
inductive TableFault
  | columnKeyEmpty
  | columnTwice (key : String)
  | tableIdEmpty
  | pageSizeTooSmall
  | noColumns
  | sortColumnMissing (key : String)
  | invalidFieldName (form field : String)
  | formTwice (id : String)
  | actionTwice (id : String)
  | unknownForm (id : String)
  | mixedParameters
  | danglingPercent (format : String)
  | unknownSpecifier (format : String)
  | formatNotApplicable (format : String)
  | stated (text : String)
deriving DecidableEq, Repr

namespace ProtocolFault

def message : ProtocolFault → String
  | negativePage page => s!"page must not be negative: {page}"
  | pageSizeTooSmall size => s!"page_size must be greater than zero: {size}"
  | tableNotSet => "table name not set, use QuerySource::with_table()"
  | unknownForm id => s!"form '{id}' not found"
  | unknownFilterFunction name => s!"filter function not understood: {name}"
  | otherTable requested served =>
      s!"request is for table '{requested}', not '{served}'"
  | missingParameter name => s!"missing required parameter {name}"
  | rowidWithoutId => "rowid must contain an id"
  | rowidWithoutFields => "rowid must name at least one field"
  | invalidRowidField name => s!"invalid rowid field '{name}'"
  | unknownAction name => s!"unknown action: {name}"
  | filtersNotJson => "filters are not valid json:"
  | invalidFilter => "invalid filter:"
  | notAnInteger name value => s!"{name} must be an integer: {value}"
  | invalidRowAction id => s!"invalid row action '{id}'"
  | stated text => text

end ProtocolFault

namespace PermissionFault

def message : PermissionFault → String
  | rowNotFound id => s!"row {id} not found"
  | formRowNotFound => "row not found"
  | deleteForbidden id => s!"row {id} may not be deleted"
  | downloadsDisabled => "downloads are not enabled for this table"
  | fieldFixed field id => s!"field '{field}' of row {id} must not change"
  | stated text => text

end PermissionFault

namespace TableFault

def message : TableFault → String
  | columnKeyEmpty => "column key must not be empty"
  | columnTwice key => s!"column '{key}' was defined twice"
  | tableIdEmpty => "table unique id must not be empty"
  | pageSizeTooSmall => "page size must be greater than zero"
  | noColumns => "a table needs at least one column"
  | sortColumnMissing key => s!"default sort column '{key}' not found"
  | invalidFieldName form field =>
      s!"form '{form}' has an invalid field name '{field}'"
  | formTwice id => s!"form {id} was added twice"
  | actionTwice id => s!"row action with id '{id}' already exists"
  | unknownForm id => s!"form '{id}' not found"
  | mixedParameters =>
      "positional and named parameters cannot be mixed in one statement"
  | danglingPercent format =>
      s!"date format ends with a dangling '%': {format}"
  | unknownSpecifier format =>
      s!"date format contains unknown identifiers: {format}"
  | formatNotApplicable format => s!"could not apply date format: {format}"
  | stated text => text

end TableFault

/-- A failure with its class. -/
inductive Error
  | protocol (fault : ProtocolFault)
  | permission (fault : PermissionFault)
  | engine (failure : EngineFailure)
  | table (fault : TableFault)
deriving DecidableEq, Repr

namespace Error

/-- The name of the class, which every caller may see. -/
def className : Error → String
  | protocol _ => "protocol_error"
  | permission _ => "permission_error"
  | engine failure => "engine_error:" ++ failure.kind.name
  | table _ => "config_error"

/-- The failure in words, which only a privileged caller may see. -/
def message : Error → String
  | protocol fault => "protocol error: " ++ fault.message
  | permission fault => "permission denied: " ++ fault.message
  | engine failure => failure.describe
  | table fault => "invalid table configuration: " ++ fault.message

/-- The messages of the causes, the nearest first. -/
def trace : Error → List String
  | engine failure => failure.causes
  | _ => []

end Error

end DataGrid
