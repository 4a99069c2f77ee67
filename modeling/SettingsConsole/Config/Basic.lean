import SettingsConsole.Remote.Paging
import SettingsConsole.Text.Blank
import SettingsConsole.Text.Numeral
import SettingsConsole.Text.Quoted
import SettingsConsole.Toml.Parser

/-!
# Configuration

The configuration of the console comes in layers: a file, the environment, and flags. A later layer
overrides an earlier one. In the end the page size is brought into range and blank texts are
dropped.
-/

namespace SettingsConsole

open Text

/-- The configuration of the console. -/
structure Config where
  /-- The address of the management server. -/
  endpoint : Option String
  sessionKey : Option String
  /-- The number of rows on a page. -/
  pageSize : UInt32
  /-- How long to wait for a connection, in seconds. -/
  connectTimeout : UInt64
  /-- How long to wait for an answer, in seconds. -/
  requestTimeout : UInt64
  /-- The code of the language. -/
  language : String
  deriving DecidableEq, Repr

namespace Config

/-- The configuration that holds where nothing else is said. -/
def default : Config := ⟨none, none, Paging.defaultSize, 10, 30, "en-US"⟩

/-! ## The file -/

/-- The text of a key, if the key is there. -/
def textAt (ms : Toml.Members) (key : String) : Option (Option String) :=
  match ms.lookup key with
  | none => some none
  | some (.text s) => some (some s)
  | some _ => none

/-- The number of a key from zero to `limit`, if the key is there. -/
def naturalAt (limit : Nat) (ms : Toml.Members) (key : String) : Option (Option Nat) :=
  match ms.lookup key with
  | none => some none
  | some (.integer n) => if 0 ≤ n ∧ n ≤ limit then some (some n.toNat) else none
  | some _ => none

/-- Read the keys of a document. Missing keys have their default, and unknown keys are ignored. -/
def ofToml? (ms : Toml.Members) : Option Config := do
  let endpoint ← textAt ms "endpoint"
  let sessionKey ← textAt ms "session_key"
  let pageSize ← naturalAt 4294967295 ms "page_size"
  let connectTimeout ← naturalAt 18446744073709551615 ms "connect_timeout_secs"
  let requestTimeout ← naturalAt 18446744073709551615 ms "request_timeout_secs"
  let language ← textAt ms "language"
  some
    ⟨endpoint, sessionKey, (pageSize.map UInt32.ofNat).getD default.pageSize,
      (connectTimeout.map UInt64.ofNat).getD default.connectTimeout,
      (requestTimeout.map UInt64.ofNat).getD default.requestTimeout,
      language.getD default.language⟩

/-- Read the text of a file. -/
def parse? (s : String) : Option Config := (Toml.parse? s).bind ofToml?

/-! ## The environment -/

/-- The values of the variables that are set. -/
abbrev Environment := String → Option String

/-- The variable of the endpoint. -/
def endpointVariable : String := "COSMIC_ENDPOINT"

/-- The variable of the session key. -/
def sessionKeyVariable : String := "COSMIC_SESSION_KEY"

/-- The variable of the page size. -/
def pageSizeVariable : String := "COSMIC_PAGE_SIZE"

/-- A page size in the environment that is no number. -/
structure BadPageSize where
  /-- The value of the variable. -/
  raw : String
  fault : Numeral.Fault
  deriving DecidableEq, Repr

/-- What is wrong. -/
def BadPageSize.message (b : BadPageSize) : String :=
  pageSizeVariable ++ " is not a number: '" ++ b.raw ++ "'"

/-- What is wrong, and why. -/
def BadPageSize.chain (b : BadPageSize) : String := b.message ++ ": " ++ b.fault.message

/-- Apply the environment. If the page size is bad, everything else is applied. -/
def applyEnvironment (c : Config) (env : Environment) : Config × Option BadPageSize :=
  let c :=
    { c with
      endpoint := (env endpointVariable).or c.endpoint
      sessionKey := (env sessionKeyVariable).or c.sessionKey }
  match env pageSizeVariable with
  | none => (c, none)
  | some raw =>
    match Numeral.word32 (trim raw) with
    | .ok n => ({ c with pageSize := n }, none)
    | .error fault => (c, some ⟨raw, fault⟩)

/-! ## Flags -/

/-- What flags say. -/
structure Overrides where
  endpoint : Option String := none
  sessionKey : Option String := none
  pageSize : Option UInt32 := none
  language : Option String := none
  deriving DecidableEq, Repr

/-- Apply flags. -/
def applyOverrides (c : Config) (o : Overrides) : Config :=
  { c with
    endpoint := o.endpoint.or c.endpoint
    sessionKey := o.sessionKey.or c.sessionKey
    pageSize := o.pageSize.getD c.pageSize
    language := o.language.getD c.language }

/-- Bring the page size into range and drop blank texts. -/
def normalize (c : Config) : Config :=
  { c with
    pageSize := Paging.clampSize c.pageSize
    endpoint := c.endpoint.bind unlessBlank
    sessionKey := c.sessionKey.bind unlessBlank }

/-! ## Texts -/

/-- What is said if no endpoint is configured. -/
def noEndpoint : String :=
  "No management endpoint configured; set `endpoint` in the config file, " ++ endpointVariable ++
    ", or --endpoint"

/-- The endpoint, which has to be configured. -/
def requiredEndpoint (c : Config) : Except String String :=
  match c.endpoint with
  | some e => .ok e
  | none => .error noEndpoint

/-- How diagnostics show an optional text. -/
def optionText : Option String → String
  | some s => "Some(" ++ quote s ++ ")"
  | none => "None"

/-- How diagnostics show a configuration. The session key is masked. -/
def debugText (c : Config) : String :=
  "ConsoleConfig \x7b endpoint: " ++ optionText c.endpoint ++ ", session_key: " ++
    optionText (c.sessionKey.map fun _ => "***") ++ ", page_size: " ++ toString c.pageSize ++
    ", connect_timeout_secs: " ++ toString c.connectTimeout ++ ", request_timeout_secs: " ++
    toString c.requestTimeout ++ ", language: " ++ quote c.language ++ " \x7d"

end Config

end SettingsConsole
