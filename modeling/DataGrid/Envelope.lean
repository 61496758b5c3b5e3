import DataGrid.Error
import DataGrid.Json.Value

/-!
# Envelopes

The body of every response that is not a download: what was asked for, or what
went wrong.  Details of a failure are only for privileged callers.
-/

namespace DataGrid

/-- The body of a response. -/
inductive Envelope
  | success (data : Option Json) (meta_ : Option Json)
  | failure (message : String) (trace : Option (List String))
      (className : String)

namespace Envelope

/-- What an unprivileged caller is told of every failure. -/
def genericMessage : String :=
  "Sorry, an error occurred while loading the data!"

/-- A success with data. -/
def ofData (data : Json) : Envelope :=
  .success (some data) none

/-- A success that only says something about the table. -/
def ofMeta (meta_ : Json) : Envelope :=
  .success none (some meta_)

/-- A failure, in as much detail as the caller may see.  The class of the
failure is always told. -/
def ofError (error : Error) (privileged : Bool) : Envelope :=
  if privileged then
    .failure error.message (some error.trace) error.className
  else .failure genericMessage none error.className

def optional (name : String) (value : Option Json) : Json.Fields :=
  (value.map (name, ·)).toList

def toJson : Envelope → Json
  | success data meta_ =>
      .object (("type", .text "success") ::
        optional "data" data ++ optional "meta" meta_)
  | failure message trace className =>
      .object (("type", .text "error") :: ("error", .text message) ::
        optional "trace" (trace.map fun causes => .list (causes.map .text)) ++
        [("exception", .text className)])

end Envelope

end DataGrid
