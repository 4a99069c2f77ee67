import SettingsConsole.Remote.Client
import SettingsConsole.Remote.Redaction
import SettingsConsole.Remote.Response
import SettingsConsole.Url.Parser

/-!
# Endpoints

An endpoint is the web address that requests are sent to, with the key of the session if there is
one. The parameters of a request are appended to the query of the address.
-/

namespace SettingsConsole

open Text

/-- Where requests are sent, and for which session. -/
structure Endpoint where
  url : Url
  sessionKey : Option String
  deriving DecidableEq

namespace Endpoint

/-- The failure of a text that is no endpoint. -/
def invalid (detail : String) : RemoteError := .invalidParameter "client" "endpoint" detail

/-- The endpoint at an address. A blank key is no key. -/
def build (text : String) (sessionKey : Option String) : Except RemoteError Endpoint :=
  match Url.parse (trim text) with
  | .error f => .error (invalid f.message)
  | .ok (.other scheme) => .error (invalid ("unsupported scheme '" ++ scheme ++ "'"))
  | .ok (.web url) => .ok ⟨url, sessionKey.bind unlessBlank⟩

/-- Drop the question marks at the end of a text. -/
def dropQuestionMarks (s : String) : String :=
  String.ofList ((s.toList.reverse.dropWhile (· == '?')).reverse)

/-- What separates the query of the endpoint from the parameters of a request. -/
def separator (e : Endpoint) : String := if e.url.query.getD "" = "" then "?" else "&"

/-- The address of a request: the endpoint, the command, the parameters, and the key of the
session. -/
def requestUrl (e : Endpoint) (op : Operation) (p : Params) : String :=
  dropQuestionMarks e.url.toText ++ e.separator ++ "command=" ++ Percent.encode op.name ++
    "&response=json" ++ (if p.isEmpty then "" else "&" ++ p.toQuery) ++
      match e.sessionKey with
      | some key => "&sessionkey=" ++ Percent.encode key
      | none => ""

/-- The line that a log shows for a request. Secrets are masked. -/
def logLine (e : Endpoint) (op : Operation) (p : Params) : String :=
  "[" ++ op.name ++ "] GET " ++ Redaction.query (e.requestUrl op p)

/-- The client that sends each request once. -/
def client {m : Type → Type} [Monad m] (e : Endpoint) (send : String → m Response) : Client m where
  call op p := ExceptT.mk do
    let r ← send (e.requestUrl op p)
    pure (r.document op.name)

/-- How diagnostics show an optional secret. -/
def maskedText : Option String → String
  | some _ => "Some(" ++ quote Redaction.mask ++ ")"
  | none => "None"

/-- How diagnostics show an endpoint. The key is masked. -/
def debugText (e : Endpoint) : String :=
  "HttpInvoker \x7b endpoint: " ++ quote e.url.toText ++ ", session_key: " ++
    maskedText e.sessionKey ++ ", .. \x7d"

end Endpoint

end SettingsConsole
