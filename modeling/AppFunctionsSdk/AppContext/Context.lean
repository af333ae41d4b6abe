import AppFunctionsSdk.AppSdk.Clients

/-!
# The processing context

A pipeline function gets the `appcontext.Context` of the event it processes and its arguments,
each an `interface{}` that `util.CoerceType` turns into bytes.  Two operations of the context
talk to Core Data through the context's `EventClient`.  The triggers, whose code is not among
the sources, fill it from the SDK's clients, where `initializeClients` leaves it `nil` when
`Clients` has no `CoreData` entry.

Both operations first log through the context's `LoggingClient`, with no `nil` check, so on a
context without one they panic.  `MarkAsPushed` then checks the event client and returns an
error when it is `nil`; `PushToCoreData` calls `EventClient.Add` without that check, so without
a `CoreData` entry it panics once its value coerces.  The clock, the `uuid.New()` the call draws
and the answers of Core Data are arguments of the model.
-/

namespace AppFunctionsSdk
namespace AppContext

open AppSdk

/-! ### Arguments -/

/-- An argument of a pipeline function, an `interface{}`, as `CoerceType` tells them apart. -/
inductive Param where
  | string (s : String)
  | bytes (b : List UInt8)
  /-- Any other value, with what `json.Marshal` makes of it: `none` when it fails. -/
  | other (json : Option (List UInt8))
deriving DecidableEq

/-- `CoerceType`: the bytes of a string or a byte slice, and the JSON encoding of anything else. -/
def coerceType : Param → Except String (List UInt8)
  | .string input => .ok input.toUTF8.data.toList
  | .bytes data => .ok data
  | .other (some data) => .ok data
  | .other none => .error ("marshaling input data to JSON failed, " ++
      "passed in data must be of type []byte, string, or support marshaling to JSON")

/-! ### The context -/

/-- The fields of `appcontext.Context` that the modelled operations read or write. -/
structure Context where
  eventID : String
  eventChecksum : String
  correlationID : String
  retryData : List UInt8
  /-- `LoggingClient != nil`. -/
  loggingClient : Bool
  /-- `EventClient != nil`. -/
  eventClient : Bool
deriving DecidableEq

/-- The request `MarkAsPushed` sends Core Data. -/
inductive PushedRequest where
  | markPushed (id : String)
  | markPushedByChecksum (checksum : String)
deriving DecidableEq

/-- The message of `MarkAsPushed` without an event client. -/
def missingEventClientError : String :=
  "unable to Mark As Pushed: \x27" ++ coreDataClientName ++ "\x27 is missing from Clients configuration"

/-- `Context.MarkAsPushed`, given Core Data's answer to a request sent with a correlation ID: the
error it returns, `none` for `nil`; the outer `none` where `LoggingClient.Debug` is called on a
`nil` logging client, which panics. -/
def Context.markAsPushed (markPushed : PushedRequest → String → Option String)
    (context : Context) : Option (Option String) :=
  if !context.loggingClient then none
  else if !context.eventClient then some (some missingEventClientError)
  else if context.eventID ≠ "" then
    some (markPushed (.markPushed context.eventID) context.correlationID)
  else if context.eventChecksum ≠ "" then
    some (markPushed (.markPushedByChecksum context.eventChecksum) context.correlationID)
  else some (some "No EventID or EventChecksum Provided")

/-- A `models.Reading`; its `Value`, a Go string, is its bytes. -/
structure Reading where
  value : List UInt8
  origin : Int
  device : String
  name : String
deriving DecidableEq

/-- A `models.Event`. -/
structure Event where
  id : String
  device : String
  origin : Int
  readings : List Reading
deriving DecidableEq

/-- `Context.PushToCoreData`, given the clock `now`, the correlation ID `uuid.New()` draws and
Core Data's answer to `EventClient.Add` of an event under a correlation ID; `none` where
`LoggingClient.Debug` or `Add` is called on a `nil` client, which panics. -/
def Context.pushToCoreData (now : Int) (correlation : String)
    (add : Event → String → Except String String) (context : Context)
    (deviceName readingName : String) (value : Param) : Option (Except String Event) :=
  if !context.loggingClient then none else
  match coerceType value with
  | .error err => some (.error err)
  | .ok val =>
    let newEdgeXEvent : Event :=
      ⟨"", deviceName, now, [⟨val, now, deviceName, readingName⟩]⟩
    if context.eventClient then
      match add newEdgeXEvent correlation with
      | .error err => some (.error err)
      | .ok result => some (.ok { newEdgeXEvent with id := result })
    else none

end AppContext
end AppFunctionsSdk
