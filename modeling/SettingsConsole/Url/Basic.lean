/-!
# Web addresses

An address of a web server: the scheme, who logs in, the host, the network port unless it is the
usual one of the scheme, the path, the query and the fragment. Its parts are in normal form.
-/

namespace SettingsConsole

/-- The schemes of web servers. -/
inductive Url.Scheme where
  | http
  | https
  deriving DecidableEq, Repr

/-- The name of a scheme. -/
def Url.Scheme.name : Url.Scheme → String
  | http => "http"
  | https => "https"

/-- The usual port of a scheme. -/
def Url.Scheme.port : Url.Scheme → Nat
  | http => 80
  | https => 443

/-- An address of a web server. -/
structure Url where
  scheme : Url.Scheme
  /-- User name and password, with the sign that separates them from the host; or nothing. -/
  userinfo : String
  host : String
  /-- The network port, if it is not the usual one. -/
  port : Option Nat
  /-- The path, which begins with a slash. -/
  path : String
  query : Option String
  fragment : Option String
  deriving DecidableEq, Repr

namespace Url

/-- What stands before the path of an address. -/
def origin (u : Url) : String :=
  u.scheme.name ++ "://" ++ u.userinfo ++ u.host ++
    match u.port with
    | some n => ":" ++ toString n
    | none => ""

/-- The query of an address with its question mark, if there is one. -/
def queryText (u : Url) : String :=
  match u.query with
  | some q => "?" ++ q
  | none => ""

/-- The text of an address. -/
def toText (u : Url) : String :=
  u.origin ++ u.path ++ u.queryText ++
    match u.fragment with
    | some f => "#" ++ f
    | none => ""

/-- What a request for an address asks the server for. The fragment is no part of it. -/
def target (u : Url) : String := u.path ++ u.queryText

end Url

end SettingsConsole
