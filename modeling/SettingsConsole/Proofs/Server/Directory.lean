import SettingsConsole.Proofs.Server.Invariants

/-!
# The directory of LDAP servers

The LDAP servers of the store are a directory of ports under host names. An addition with a new host
name comes last, and a removal takes one server out; either is refused if the host name is taken, or
missing. On the map from host names to ports these are an insertion and a deletion. The responses of
the store keep host names distinct.
-/

namespace SettingsConsole

open Text

/-- What an addition or a removal does to the LDAP servers, with its result. -/
inductive Ldap.Changes :
    List LdapServer → Request → Except PanelError Reply → List LdapServer → Prop
  /-- A server with a new host name comes last, and its row is given. -/
  | added {servers : List LdapServer} {values : FieldValues} {host : String} {port : UInt16} :
      GivesServer values (host, port) → host ≠ "" → 1 ≤ port.toNat →
      (∀ s ∈ servers, s.hostname ≠ host) →
      Changes servers (.add values)
        (.ok (.outcome
          { row := some (LdapServer.toRow ⟨host, port⟩), signals := [.refreshPanel .ldapServer] }))
        (servers ++ [⟨host, port⟩])
  /-- A host name that is taken is refused. -/
  | taken {servers : List LdapServer} {values : FieldValues} {host : String} {port : UInt16} :
      GivesServer values (host, port) → (∃ s ∈ servers, s.hostname = host) →
      Changes servers (.add values)
        (.error (.remote
          (.api "addLdapConfiguration" 431 (some 431) "Duplicate LDAP configuration")))
        servers
  /-- The server with the host name is taken out, and no row is given. -/
  | removed {front back : List LdapServer} {s : LdapServer} {id : String} : s.hostname = trim id →
      Changes (front ++ s :: back) (.remove id) (.ok (.outcome { signals := [.fullRefresh] }))
        (front ++ back)
  /-- A host name that is missing is refused. -/
  | missing {servers : List LdapServer} {id : String} : (∀ s ∈ servers, s.hostname ≠ trim id) →
      Changes servers (.remove id)
        (.error (.remote
          (.api "deleteLdapConfiguration" 431 (some 431) "Cannot find LDAP configuration")))
        servers

/-- The port under a host name. -/
def Ldap.port? (servers : List LdapServer) (host : String) : Option UInt16 :=
  (servers.find? (·.hostname == host)).map LdapServer.port

/-- What an addition or a removal does to a map from host names to ports. -/
inductive Ldap.Maps (ports : String → Option UInt16) : Request → (String → Option UInt16) → Prop
  /-- A port comes under a new host name. -/
  | inserted {values : FieldValues} {host : String} {port : UInt16} :
      GivesServer values (host, port) → ports host = none →
      Maps ports (.add values) (Function.update ports host (some port))
  /-- A host name that is taken keeps its port. -/
  | kept {values : FieldValues} {host : String} {port : UInt16} :
      GivesServer values (host, port) → ports host ≠ none → Maps ports (.add values) ports
  /-- Nothing is left under a host name. -/
  | erased {id : String} : Maps ports (.remove id) (Function.update ports (trim id) none)

/-- Host names are distinct. -/
def Store.Distinct (st : Store) : Prop := (st.ldapServers.map LdapServer.hostname).Nodup

/-! ## The map from host names to ports -/

namespace Ldap

variable {servers : List LdapServer} {host : String}

/-- Nothing is under a host name that no server has. -/
theorem port?_eq_none_iff : port? servers host = none ↔ ∀ s ∈ servers, s.hostname ≠ host := by
  simp [port?]

/-- The servers around one have other host names if all are distinct. -/
theorem hostname_ne {front back : List LdapServer} {s : LdapServer}
    (hdistinct : ((front ++ s :: back).map LdapServer.hostname).Nodup) :
    ∀ other ∈ front ++ back, other.hostname ≠ s.hostname := by
  rw [List.map_append, List.map_cons, List.nodup_middle, List.nodup_cons, ← List.map_append]
    at hdistinct
  exact fun other hother heq => hdistinct.1 (heq ▸ List.mem_map_of_mem hother)

/-- A server with a new host name comes into the map. -/
theorem port?_append_new {port : UInt16} (hnew : ∀ s ∈ servers, s.hostname ≠ host) :
    port? (servers ++ [⟨host, port⟩]) = Function.update (port? servers) host (some port) := by
  funext other
  by_cases hother : other = host
  · subst hother
    have hfind := Option.map_eq_none_iff.mp (port?_eq_none_iff.mpr hnew)
    rw [Function.update_self]
    simp [port?, List.find?_append, hfind]
  · rw [Function.update_of_ne hother]
    simp [port?, List.find?_append, Ne.symm hother]

/-- Without one server with a host name, nothing is under the host name. -/
theorem port?_remove {front back : List LdapServer} {s : LdapServer}
    (hne : ∀ other ∈ front ++ back, other.hostname ≠ s.hostname) :
    port? (front ++ back) = Function.update (port? (front ++ s :: back)) s.hostname none := by
  funext other
  by_cases hother : other = s.hostname
  · subst hother
    rw [Function.update_self]
    exact port?_eq_none_iff.mpr hne
  · rw [Function.update_of_ne hother]
    simp [port?, List.find?_append, Ne.symm hother]

/-- What the rules do to the LDAP servers is an insertion into the map or a deletion from it. -/
theorem Changes.maps {r : Request} {result : Except PanelError Reply} {after : List LdapServer}
    (h : Changes servers r result after) (hdistinct : (servers.map LdapServer.hostname).Nodup) :
    Maps (port? servers) r (port? after) := by
  cases h with
  | added hgives _ _ hnew =>
    rw [port?_append_new hnew]
    exact .inserted hgives (port?_eq_none_iff.mpr hnew)
  | taken hgives htaken =>
    refine .kept hgives fun hnone => ?_
    obtain ⟨s, hs, hname⟩ := htaken
    exact port?_eq_none_iff.mp hnone s hs hname
  | removed hname =>
    rw [port?_remove (hostname_ne hdistinct), hname]
    exact .erased
  | @missing _ id hmissing =>
    have hsame : Function.update (port? servers) (trim id) none = port? servers := by
      rw [← port?_eq_none_iff.mpr hmissing, Function.update_eq_self]
    have herased : Maps (port? servers) (.remove id) _ := .erased
    rwa [hsame] at herased

end Ldap

/-! ## Responses of the store -/

namespace Store

/-- The search for a host name succeeds exactly if an LDAP server has it. -/
theorem any_hostname_iff {servers : List LdapServer} {host : String} :
    servers.any (·.hostname == host) = true ↔ ∃ s ∈ servers, s.hostname = host := by
  simp

/-- The server adds an LDAP server with a new host name, and refuses another one. -/
theorem respond_addLdapServer (st : Store) (host : String) (port : UInt16) :
    st.respond .addLdapServer
        (Params.word (Params.text Dict.empty "hostname" host) "port" port.toUInt32) =
      if st.ldapServers.any (·.hostname == host) then
        .error (rejected .addLdapServer "Duplicate LDAP configuration")
      else
        .ok (body .addLdapServer [(Schema.addLdapServer.key,
          .object [("hostname", .str host), ("port", .str (toString (port.toNat : Int)))])],
          { st with ldapServers := st.ldapServers ++ [⟨host, port⟩] }) := by
  let p := Params.word (Params.text Dict.empty "hostname" host) "port" port.toUInt32
  have hlt := port.toNat_lt
  have hhost : p.display? "hostname" = some host := by
    simp [p, Params.display?, Params.word, Params.number, Params.text, ParamValue.display]
  have hport : number? p "port" = some (port.toNat : Int) := by
    have hget : p.get? "port" = some (.number (Int64.ofNat port.toNat)) := by
      simp [p, Params.word, Params.number, Params.text]
    simp only [number?, hget, Int64.toInt_ofNat_of_lt (show port.toNat < 2 ^ 63 by omega)]
  have hrange : 0 ≤ (port.toNat : Int) ∧ (port.toNat : Int) ≤ 65535 := by omega
  change st.addLdapServer p = _
  simp only [addLdapServer, hhost, hport, Option.getD_some, if_pos hrange, Int.toNat_natCast,
    UInt16.ofNat_toNat]

/-- The server deletes the LDAP servers with a host name, of which there has to be one. -/
theorem respond_deleteLdapServer (st : Store) (host : String) :
    st.respond .deleteLdapServer (Params.text Dict.empty "hostname" host) =
      if st.ldapServers.any (·.hostname == host) then
        .ok (body .deleteLdapServer
            [("LdapDeleteConfiguration", .object [("hostname", .str host)])],
          { st with ldapServers := st.ldapServers.filter fun s => !(s.hostname == host) })
      else .error (rejected .deleteLdapServer "Cannot find LDAP configuration") := by
  have hhost : Params.display? (Params.text Dict.empty "hostname" host) "hostname" = some host := by
    simp [Params.display?, Params.text, ParamValue.display]
  simp only [respond, deleteLdapServer, hhost, Option.getD_some]

/-- A new host name comes to distinct ones. -/
theorem Distinct.add {st : Store} (hst : st.Distinct) {s : LdapServer}
    (hs : ∀ other ∈ st.ldapServers, other.hostname ≠ s.hostname) :
    Store.Distinct { st with ldapServers := st.ldapServers ++ [s] } := by
  change ((st.ldapServers ++ [s]).map LdapServer.hostname).Nodup
  rw [List.map_append, List.nodup_append]
  refine ⟨hst, List.nodup_singleton _, ?_⟩
  simpa using hs

/-- Distinct host names stay distinct. -/
theorem Distinct.respond {st st' : Store} {op : Operation} {p : Params} {v : Json}
    (hst : st.Distinct) (h : st.respond op p = .ok (v, st')) : st'.Distinct := by
  cases op with
  | listSettings => cases h; exact hst
  | listLdapServers => cases h; exact hst
  | listHypervisors => cases h; exact hst
  | updateSetting =>
    simp only [Store.respond, updateSetting] at h
    split at h
    · cases h; exact hst
    · cases h
  | updateHypervisor =>
    simp only [Store.respond, updateHypervisor] at h
    split at h
    · cases h; exact hst
    · cases h
  | addLdapServer =>
    simp only [Store.respond, addLdapServer] at h
    split at h
    · cases h
    · next hnew =>
      split at h
      · cases h
        exact hst.add fun s hs hname => hnew (any_hostname_iff.mpr ⟨s, hs, hname⟩)
      · cases h
  | deleteLdapServer =>
    simp only [Store.respond, deleteLdapServer] at h
    split at h
    · cases h
      exact hst.sublist (List.filter_sublist.map _)
    · cases h

/-- If host names are distinct, all other servers are left without the host name of one. -/
theorem filter_hostname {front back : List LdapServer} {s : LdapServer}
    (hdistinct : ((front ++ s :: back).map LdapServer.hostname).Nodup) :
    (front ++ s :: back).filter (fun other => !(other.hostname == s.hostname)) = front ++ back := by
  have hkept (other : LdapServer) (hother : other ∈ front ++ back) :
      (!(other.hostname == s.hostname)) = true := by
    simpa using Ldap.hostname_ne hdistinct other hother
  rw [List.filter_append, List.filter_cons_of_neg (by simp), ← List.filter_append]
  exact List.filter_eq_self.mpr hkept

/-- The actions on settings and capability entries leave the LDAP servers as they are. -/
theorem ldapServers_respond {st st' : Store} {resource : Resource}
    (hresource : resource ≠ .ldapServer) {op : Operation} (hop : op ∈ resource.changing)
    {p : Params} {v : Json} (h : st.respond op p = .ok (v, st')) :
    st'.ldapServers = st.ldapServers := by
  cases resource with
  | ldapServer => exact absurd rfl hresource
  | setting =>
    obtain rfl := List.mem_singleton.mp hop
    simp only [Store.respond, updateSetting] at h
    split at h <;> cases h
    rfl
  | hypervisor =>
    obtain rfl := List.mem_singleton.mp hop
    simp only [Store.respond, updateHypervisor] at h
    split at h <;> cases h
    rfl

/-- The actions on LDAP servers leave settings and capability entries as they are. -/
theorem apart_respond {st st' : Store} {op : Operation} (hop : op ∈ Resource.ldapServer.changing)
    {p : Params} {v : Json} (h : st.respond op p = .ok (v, st')) :
    st'.settings = st.settings ∧ st'.hypervisors = st.hypervisors := by
  rcases List.mem_pair.mp hop with rfl | rfl
  · simp only [Store.respond, addLdapServer] at h
    split at h
    · cases h
    · split at h <;> cases h
      exact ⟨rfl, rfl⟩
  · simp only [Store.respond, deleteLdapServer] at h
    split at h <;> cases h
    exact ⟨rfl, rfl⟩

end Store

end SettingsConsole
