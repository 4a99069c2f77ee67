import SettingsConsole.Entity.Row
import SettingsConsole.Json.Decode
import SettingsConsole.Json.Printer

/-!
# Failures of remote calls

A remote call fails on the way, in the server, or when its answer is read. Each failure names the
operation. It has a message, and a JSON form from which it can be read back.
-/

namespace SettingsConsole

/-- Why a remote call failed. -/
inductive RemoteError where
  /-- The server could not be reached, or the connection broke. -/
  | network (operation detail : String)
  /-- No answer came in time. -/
  | timeout (operation detail : String)
  /-- The session is missing or not allowed to do this. -/
  | unauthorized (operation : String) (text : Option String)
  /-- The server answered with an error. -/
  | api (operation : String) (status : UInt16) (code : Option UInt32) (text : String)
  /-- An answer lacks its envelope, or a key in it. -/
  | envelopeMismatch (operation envelope key : String)
  /-- A parameter is wrong before anything is sent. -/
  | invalidParameter (operation param detail : String)
  /-- An answer cannot be read. -/
  | parse (operation detail : String)
  /-- A value cannot be written. -/
  | serialization (operation detail : String)
  deriving DecidableEq, Repr

namespace RemoteError

/-- The operation that failed. -/
def operation : RemoteError → String
  | network op _ | timeout op _ | unauthorized op _ | api op _ _ _ | envelopeMismatch op _ _
  | invalidParameter op _ _ | parse op _ | serialization op _ => op

/-- The name of the kind of failure. -/
def code : RemoteError → String
  | network .. => "NetworkError"
  | timeout .. => "Timeout"
  | unauthorized .. => "Unauthorized"
  | api .. => "Api"
  | envelopeMismatch .. => "EnvelopeMismatch"
  | invalidParameter .. => "InvalidParameter"
  | parse .. => "ParseError"
  | serialization .. => "SerializationError"

/-- The names of all kinds of failure. -/
def codes : List String :=
  ["NetworkError", "Timeout", "Unauthorized", "Api", "EnvelopeMismatch", "InvalidParameter",
    "ParseError", "SerializationError"]

/-- Whether a failure is due to what the user asked for, and not to a defect or an outage. -/
def isExpected : RemoteError → Bool
  | unauthorized .. | invalidParameter .. => true
  | api _ status _ _ => status < 500
  | _ => false

/-- The message of a failure. -/
def message : RemoteError → String
  | network op detail => s!"[{op}] Network error: {detail}"
  | timeout op detail => s!"[{op}] Request timeout: {detail}"
  | unauthorized op (some text) => s!"[{op}] Unauthorized: {text}"
  | unauthorized op none => s!"[{op}] Unauthorized"
  | api op status (some code) text => s!"[{op}] HTTP {status} ({code}): {text}"
  | api op status none text => s!"[{op}] HTTP {status}: {text}"
  | envelopeMismatch op envelope key =>
    if envelope = key then s!"[{op}] Response is missing envelope " ++ "'" ++ envelope ++ "'"
    else s!"[{op}] Response envelope " ++ "'" ++ envelope ++ "' has no '" ++ key ++ "'"
  | invalidParameter op param detail =>
    s!"[{op}] Invalid parameter " ++ "'" ++ param ++ "': " ++ detail
  | parse op detail => s!"[{op}] Parse error: {detail}"
  | serialization op detail => s!"[{op}] Serialization error: {detail}"

/-- The members of the JSON form of a failure: its kind and its fields. -/
def members (e : RemoteError) : List (String × Json) :=
  ("code", .str e.code) :: ("operation", .str e.operation) ::
    match e with
    | network _ detail | timeout _ detail | parse _ detail | serialization _ detail =>
      [("detail", .str detail)]
    | unauthorized _ text => [("raw_message", .ofText? text)]
    | api _ status code text =>
      [("status", .ofNat status.toNat),
        ("error_code", match code with
          | some n => .ofNat n.toNat
          | none => .null),
        ("raw_message", .str text)]
    | envelopeMismatch _ envelope key => [("envelope", .str envelope), ("key", .str key)]
    | invalidParameter _ param detail => [("param", .str param), ("detail", .str detail)]

/-- The JSON form of a failure. -/
def toJson (e : RemoteError) : Json := .object e.members

/-! ## Reading a failure back -/

open Decode

/-- Read an HTTP status. -/
def status (v : Json) : Except Fault UInt16 := (natural 65535 "u16" v).map UInt16.ofNat

/-- Read an error code. -/
def errorCode (v : Json) : Except Fault UInt32 := (natural 4294967295 "u32" v).map UInt32.ofNat

/-- Read the fields of a failure of the kind `code` from the members of an object. -/
def ofMembers (code : String) (ms : List (String × Json)) : Except Fault RemoteError :=
  let detailed (make : String → String → RemoteError) : Except Fault RemoteError := do
    let detail ← member ms "detail" text
    let operation ← member ms "operation" text
    let operation ← required "operation" operation
    let detail ← required "detail" detail
    pure (make operation detail)
  match code with
  | "NetworkError" => detailed network
  | "Timeout" => detailed timeout
  | "ParseError" => detailed parse
  | "SerializationError" => detailed serialization
  | "Unauthorized" => do
    let operation ← member ms "operation" text
    let message ← member ms "raw_message" (nullable text)
    let operation ← required "operation" operation
    pure (unauthorized operation message.join)
  | "Api" => do
    let code ← member ms "error_code" (nullable errorCode)
    let operation ← member ms "operation" text
    let message ← member ms "raw_message" text
    let status ← member ms "status" status
    let operation ← required "operation" operation
    let status ← required "status" status
    let message ← required "raw_message" message
    pure (api operation status code.join message)
  | "EnvelopeMismatch" => do
    let envelope ← member ms "envelope" text
    let key ← member ms "key" text
    let operation ← member ms "operation" text
    let operation ← required "operation" operation
    let envelope ← required "envelope" envelope
    let key ← required "key" key
    pure (envelopeMismatch operation envelope key)
  | "InvalidParameter" => do
    let detail ← member ms "detail" text
    let operation ← member ms "operation" text
    let param ← member ms "param" text
    let operation ← required "operation" operation
    let param ← required "param" param
    let detail ← required "detail" detail
    pure (invalidParameter operation param detail)
  | _ => .error (.unknown code codes)

/-- The description of a failure that is given as an array of its fields. -/
def arrayForm (code : String) (size : Nat) : String :=
  s!"struct variant ApiError::{code} with {size} elements"

/-- Read a failure of the kind `code` from the fields in an array. -/
def ofItems (code : String) (vs : List Json) : Except Fault RemoteError :=
  let sized (size : Nat) (read : String → Except Fault RemoteError) : Except Fault RemoteError := do
    let e ← read (arrayForm code size)
    atMost vs size s!"{size} elements in sequence"
    pure e
  let detailed (make : String → String → RemoteError) : Except Fault RemoteError :=
    sized 2 fun whole => do
      let operation ← item vs 0 whole text
      let detail ← item vs 1 whole text
      pure (make operation detail)
  match code with
  | "NetworkError" => detailed network
  | "Timeout" => detailed timeout
  | "ParseError" => detailed parse
  | "SerializationError" => detailed serialization
  | "Unauthorized" =>
    sized 2 fun whole => do
      let operation ← item vs 0 whole text
      let message ← item vs 1 whole (nullable text)
      pure (unauthorized operation message)
  | "Api" =>
    sized 4 fun whole => do
      let operation ← item vs 0 whole text
      let status ← item vs 1 whole status
      let code ← item vs 2 whole (nullable errorCode)
      let message ← item vs 3 whole text
      pure (api operation status code message)
  | "EnvelopeMismatch" =>
    sized 3 fun whole => do
      let operation ← item vs 0 whole text
      let envelope ← item vs 1 whole text
      let key ← item vs 2 whole text
      pure (envelopeMismatch operation envelope key)
  | "InvalidParameter" =>
    sized 3 fun whole => do
      let operation ← item vs 0 whole text
      let param ← item vs 1 whole text
      let detail ← item vs 2 whole text
      pure (invalidParameter operation param detail)
  | _ => .error (.unknown code codes)

/-- Read the kind of a failure. -/
def kind : Json → Except Fault String
  | .str s => if codes.contains s then .ok s else .error (.unknown s codes)
  | v => .error (.shape v "variant identifier")

/-- Read a failure from its JSON form: an object, or an array of its kind and its fields. -/
def ofJson : Json → Except Fault RemoteError
  | .obj ms => do
    let code ← member ms "code" kind
    let code ← required "code" code
    ofMembers code ms
  | .arr [] => .error (.missing "code")
  | .arr (v :: vs) => do
    let code ← kind v
    ofItems code vs
  | v => .error (.shape v "internally tagged enum ApiError")

end RemoteError

/-- The row of an object. No other value has one. -/
def Row.ofJson : Json → Except RemoteError Row
  | .obj ms => .ok (Dict.ofList ms)
  | v => .error (.serialization "row" ("expected an object, got " ++ v.render))

end SettingsConsole
