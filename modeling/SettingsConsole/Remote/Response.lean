import SettingsConsole.Json.Parser
import SettingsConsole.Remote.Failure
import SettingsConsole.Remote.Operation
import SettingsConsole.Text.Excerpt

/-!
# Responses of the server

A response is a status and a body. The server reports an error under any envelope, with any
status; a failing status is an error even without a report.
-/

namespace SettingsConsole

/-- An error that the server reports in a body. -/
structure ServerError where
  code : Option UInt32
  text : String
  deriving DecidableEq, Repr

/-- The error that one envelope reports: its text, and its code if it has a proper one. -/
def ServerError.ofEnvelope? (v : Json) : Option ServerError := do
  let text ← (← v.get? "errortext").text?
  some ⟨(v.get? "errorcode").bind Json.word32?, text⟩

/-- The first error that any envelope of a body reports. -/
def ServerError.find? (v : Json) : Option ServerError := do
  (← v.members?).findSome? fun m => ofEnvelope? m.2

/-- The error of a report under a status. -/
def ServerError.toRemote (e : ServerError) (operation : String) (status : UInt16) : RemoteError :=
  .api operation status e.code e.text

/-- What came back for a request. -/
inductive Response where
  /-- A status and a body. -/
  | answered (status : UInt16) (body : String)
  /-- Nothing, because the request could not be sent. -/
  | unreachable (detail : String)
  /-- Nothing in time. -/
  | late (detail : String)
  /-- A status, and a body that broke off. -/
  | broken (detail : String)
  deriving DecidableEq, Repr

namespace Response

/-- The statuses for a session that is missing or has expired. -/
def unauthorizedStatuses : List UInt16 := [401, 432]

/-- The error of a failing status. -/
def statusError (operation : String) (status : UInt16) (body : String) : RemoteError :=
  let reported := (Json.parse? body).bind ServerError.find?
  if unauthorizedStatuses.contains status then .unauthorized operation (reported.map (·.text))
  else
    match reported with
    | some e => e.toRemote operation status
    | none => .api operation status none (Text.excerpt body)

/-- What is wrong with a body that is no JSON. The wording is free. -/
def malformed : String := "malformed JSON"

/-- The document in a body, or the error that status and body stand for. -/
def check (operation : String) (status : UInt16) (body : String) : Except RemoteError Json :=
  if 400 ≤ status then .error (statusError operation status body)
  else
    match Json.parse? body with
    | none => .error (.parse operation malformed)
    | some v =>
      match ServerError.find? v with
      | some e => .error (e.toRemote operation status)
      | none => .ok v

/-- The document that a response holds, or the error it stands for. -/
def document (operation : String) : Response → Except RemoteError Json
  | answered status body => check operation status body
  | unreachable detail => .error (.network operation detail)
  | late detail => .error (.timeout operation detail)
  | broken detail => .error (.network operation ("Failed to read response body: " ++ detail))

end Response

end SettingsConsole
