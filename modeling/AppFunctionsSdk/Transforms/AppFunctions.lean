import AppFunctionsSdk.AppContext.Context

/-!
# The export functions of the `transforms` package

`HTTPSender.HTTPPost` posts the bytes of its first argument to a URL.  It continues the pipeline
with the response body when the POST is answered with a 2xx status.  On a failed POST, an
unreadable body or another status it stops the pipeline.  When the sender persists on error it
then leaves the exported bytes in the context's `RetryData`, which the runtime stores for the
retry loop.  `CoreData.MarkAsPushed` and `CoreData.PushToCoreData` pass the triggering event or a
new one to Core Data.

`HTTPPost` and `PushToCoreData` answer "No Data Received" when they are given no argument.
`MarkAsPushed` reads `params[0]` without that check.  `HTTPPost` logs through the context's
`LoggingClient` before the POST, with no `nil` check, as the two operations of the context do.
-/

namespace AppFunctionsSdk
namespace Transforms

open AppContext

/-- The `interface{}` a pipeline function returns with its `bool`. -/
inductive Output where
  | data (p : Param)
  | error (err : String)
  | event (e : Event)
deriving DecidableEq

/-! ### `HTTPPost` -/

/-- `HTTPSender`. -/
structure HTTPSender where
  url : String
  mimeType : String
  persistOnError : Bool

/-- What `http.Post` is given. -/
structure PostRequest where
  url : String
  contentType : String
  body : List UInt8
deriving DecidableEq

/-- How the POST ends: `http.Post` fails, the body cannot be read, or a response is read. -/
inductive PostOutcome where
  | postError (err : String)
  | readError (err : String)
  | response (statusCode : Int) (body : List UInt8)

/-- `setRetryData`. -/
def HTTPSender.setRetryData (sender : HTTPSender) (ctx : Context) (exportData : List UInt8) :
    Context :=
  if sender.persistOnError then { ctx with retryData := exportData } else ctx

/-- `HTTPPost`, given the outcome of the POST of each request: the context after the call and
the `(bool, interface{})` it returns; `none` where `LoggingClient.Debug` is called on a `nil`
logging client, which panics.  The later `Debug` and `Trace` calls are on the same client. -/
def HTTPSender.httpPost (sender : HTTPSender) (post : PostRequest → PostOutcome)
    (edgexcontext : Context) (params : List Param) : Option (Context × Bool × Output) :=
  match params with
  | [] => some (edgexcontext, false, .error "No Data Received")
  | param :: _ =>
    let sender := if sender.mimeType = "" then { sender with mimeType := "application/json" }
      else sender
    match coerceType param with
    | .error err => some (edgexcontext, false, .error err)
    | .ok exportData =>
      if !edgexcontext.loggingClient then none else
      match post ⟨sender.url, sender.mimeType, exportData⟩ with
      | .postError err => some (sender.setRetryData edgexcontext exportData, false, .error err)
      | .readError err => some (sender.setRetryData edgexcontext exportData, false, .error err)
      | .response statusCode bodyBytes =>
        if statusCode < 200 ∨ statusCode ≥ 300 then
          some (sender.setRetryData edgexcontext exportData, false,
            .error ("export failed with " ++ toString statusCode ++ " HTTP status code"))
        else some (edgexcontext, true, .data (.bytes bodyBytes))

/-! ### The functions of `CoreData` -/

/-- `CoreData`: the device and reading names of the events `PushToCoreData` sends. -/
structure CoreData where
  deviceName : String
  readingName : String

/-- `CoreData.MarkAsPushed`: the error of `Context.MarkAsPushed` is only logged, and the first
argument is passed on; `none` where that call panics, or where `params[0]` is read from no
arguments, which panics. -/
def CoreData.markAsPushed (markPushed : PushedRequest → String → Option String)
    (edgexcontext : Context) (params : List Param) : Option (Bool × Output) :=
  (edgexcontext.markAsPushed markPushed).bind fun _ =>
    match params with
    | [] => none
    | param :: _ => some (true, .data param)

/-- `CoreData.PushToCoreData`, with the arguments of `Context.pushToCoreData`; `none` where it
panics. -/
def CoreData.pushToCoreData (now : Int) (correlation : String)
    (add : Event → String → Except String String) (cdc : CoreData) (edgexcontext : Context)
    (params : List Param) : Option (Bool × Output) :=
  match params with
  | [] => some (false, .error "No Data Received")
  | param :: _ =>
    match coerceType param with
    | .error err => some (false, .error err)
    | .ok val =>
      (edgexcontext.pushToCoreData now correlation add cdc.deviceName cdc.readingName
          (.bytes val)).map fun
        | .error err => (false, .error err)
        | .ok result => (true, .event result)

end Transforms
end AppFunctionsSdk
