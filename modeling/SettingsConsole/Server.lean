import SettingsConsole.Remote.Client
import SettingsConsole.Unicode.LowerCase

/-!
# An in-memory management server

The server keeps settings, LDAP servers and capability entries, and answers in the shapes of the
real one. Answers may be replaced by fixed bodies and by failures, for each operation. Every call is
recorded.
-/

namespace SettingsConsole

open Text

/-- What the server keeps. -/
structure Store where
  settings : List Setting
  ldapServers : List LdapServer
  hypervisors : List HypervisorCapability
  deriving DecidableEq, Repr

namespace Store

/-- The capability entries of a new server. -/
def defaultHypervisors : List HypervisorCapability :=
  [⟨"1b9e", "KVM", some "default", some 50, none, none, some true, none⟩,
    ⟨"7c20", "XenServer", some "8.2.0", some 500, none, none, some true, none⟩]

/-- What a new server keeps: no settings, no LDAP servers, and two capability entries. -/
def initial : Store := ⟨[], [], defaultHypervisors⟩

/-- The refusal of an operation. -/
def rejected (op : Operation) (text : String) : RemoteError := .api op.name 431 (some 431) text

/-- The number that a parameter holds. -/
def number? (p : Params) (key : String) : Option Int :=
  match p.get? key with
  | some (.number n) => some n.toInt
  | some (.text s) => (Numeral.int64 s).toOption.map Int64.toInt
  | none => none

/-- A number that a parameter holds, at least one. -/
def countOf (p : Params) (key : String) (absent : Int) : Nat :=
  (max 1 ((number? p key).getD absent)).toNat

/-- Whether a text contains the one that a parameter holds, if there is one. -/
def matchesText (hay : String) (needle : Option String) : Bool :=
  match needle with
  | some n => contains hay n
  | none => true

/-- An answer: the envelope with what is in it. -/
def body (op : Operation) (inside : List (String × Json)) : Json :=
  .object [(op.envelope, .object inside)]

/-- The number of rows before a page. -/
def offset (p : Params) : Nat := (countOf p "page" 1 - 1) * countOf p "pagesize" 20

/-- The answer to a listing: the number of matches and the rows on the page. Nothing is in the
envelope if nothing matches. -/
def listBody {α : Type} (s : Schema α) (toJson : α → Json) (rows : List α) (p : Params) : Json :=
  if rows.isEmpty then body s.operation []
  else
    let page := (rows.drop (offset p)).take (countOf p "pagesize" 20)
    body s.operation [("count", .ofNat rows.length), (s.key, .arr (page.map toJson))]

/-- Replace the first element that satisfies a test, which is given with the new list. -/
def updateFirst {α : Type} (test : α → Bool) (f : α → α) : List α → Option (α × List α)
  | [] => none
  | a :: as =>
    if test a then some (f a, f a :: as)
    else (updateFirst test f as).map fun (b, bs) => (b, a :: bs)

/-! ## The operations -/

/-- What an answer gives: a document, and what the server keeps then. -/
abbrev Answer := Except RemoteError (Json × Store)

/-- List the settings whose names contain a text. -/
def listSettings (st : Store) (p : Params) : Answer :=
  let name := p.display? "name"
  let rows := st.settings.filter fun s => matchesText s.name name
  .ok (listBody .listSettings Setting.toJson rows p, st)

/-- Change the value of the first setting with a name. -/
def updateSetting (st : Store) (p : Params) : Answer :=
  let name := (p.display? "name").getD ""
  let change (s : Setting) : Setting := { s with value := p.display? "value" }
  match updateFirst (·.name == name) change st.settings with
  | some (s, settings) =>
    .ok (body .updateSetting [(Schema.updateSetting.key, s.toJson)],
      { st with settings := settings })
  | none => .error (rejected .updateSetting "Configuration not found")

/-- List the LDAP servers whose host names contain a text. -/
def listLdapServers (st : Store) (p : Params) : Answer :=
  let hostname := p.display? "hostname"
  let rows := st.ldapServers.filter fun s => matchesText s.hostname hostname
  .ok (listBody .listLdapServers LdapServer.toJson rows p, st)

/-- Add an LDAP server, unless there is one with its host name. The answer gives the port as a
text. -/
def addLdapServer (st : Store) (p : Params) : Answer :=
  let hostname := (p.display? "hostname").getD ""
  let port := (number? p "port").getD 0
  if st.ldapServers.any (·.hostname == hostname) then
    .error (rejected .addLdapServer "Duplicate LDAP configuration")
  else if 0 ≤ port ∧ port ≤ 65535 then
    let entity : Json := .object [("hostname", .str hostname), ("port", .str (toString port))]
    let added : LdapServer := ⟨hostname, UInt16.ofNat port.toNat⟩
    .ok (body .addLdapServer [(Schema.addLdapServer.key, entity)],
      { st with ldapServers := st.ldapServers ++ [added] })
  else .error (rejected .addLdapServer "Invalid port")

/-- Delete all LDAP servers with a host name, of which there is one at least. -/
def deleteLdapServer (st : Store) (p : Params) : Answer :=
  let hostname := (p.display? "hostname").getD ""
  if st.ldapServers.any (·.hostname == hostname) then
    let deleted : Json := .object [("hostname", .str hostname)]
    .ok (body .deleteLdapServer [("LdapDeleteConfiguration", deleted)],
      { st with ldapServers := st.ldapServers.filter fun s => !(s.hostname == hostname) })
  else .error (rejected .deleteLdapServer "Cannot find LDAP configuration")

/-- List the capability entries with an identifier, and with a keyword in the name of the
hypervisor. -/
def listHypervisors (st : Store) (p : Params) : Answer :=
  let id := p.display? "id"
  let keyword := (p.display? "keyword").map Unicode.lower
  let rows := st.hypervisors.filter fun h =>
    id.all (h.id == ·) && matchesText (Unicode.lower h.hypervisor) keyword
  .ok (listBody .listHypervisors HypervisorCapability.toJson rows p, st)

/-- Change the guest limit of the first capability entry with an identifier. -/
def updateHypervisor (st : Store) (p : Params) : Answer :=
  let id := (p.display? "id").getD ""
  let limit := (number? p "maxguestslimit").map Int64.ofInt
  let change (h : HypervisorCapability) : HypervisorCapability :=
    { h with maxGuests := limit.or h.maxGuests }
  match updateFirst (·.id == id) change st.hypervisors with
  | some (h, hypervisors) =>
    .ok (body .updateHypervisor [(Schema.updateHypervisor.key, h.toJson)],
      { st with hypervisors := hypervisors })
  | none => .error (rejected .updateHypervisor "Hypervisor capability not found")

/-- Answer an operation. A failure leaves everything as it is. -/
def respond (st : Store) (op : Operation) (p : Params) : Answer :=
  match op with
  | .listSettings => st.listSettings p
  | .updateSetting => st.updateSetting p
  | .listLdapServers => st.listLdapServers p
  | .addLdapServer => st.addLdapServer p
  | .deleteLdapServer => st.deleteLdapServer p
  | .listHypervisors => st.listHypervisors p
  | .updateHypervisor => st.updateHypervisor p

end Store

/-- A server with the calls it has received. -/
structure Server where
  store : Store
  /-- The fixed answer of an operation, if it has one. -/
  canned : Operation → Option Json
  /-- The failure of an operation, if it fails. -/
  failing : Operation → Option RemoteError
  /-- The calls so far, in order. -/
  calls : List (Operation × Params)

namespace Server

/-- A server with nothing fixed. -/
def ofStore (st : Store) : Server := ⟨st, fun _ => none, fun _ => none, []⟩

/-- Record a call and answer it: with the failure of the operation, with its fixed answer, or with
what the server keeps. -/
def answer (s : Server) (op : Operation) (p : Params) : Except RemoteError Json × Server :=
  let s := { s with calls := s.calls ++ [(op, p)] }
  match s.failing op with
  | some e => (.error e, s)
  | none =>
    match s.canned op with
    | some v => (.ok v, s)
    | none =>
      match s.store.respond op p with
      | .ok (v, st) => (.ok v, { s with store := st })
      | .error e => (.error e, s)

/-- The client of a server that is part of a larger state. -/
def clientWithin {σ : Type} (server : σ → Server) (put : Server → σ → σ) : Client (StateM σ) where
  call op p := ExceptT.mk fun st =>
    let (r, s) := (server st).answer op p
    (r, put s st)

/-- The client of a server. -/
def client : Client (StateM Server) := clientWithin id fun s _ => s

end Server

end SettingsConsole
