import SettingsConsole.Proofs.Server.Directory
import SettingsConsole.Proofs.Server.Listing

/-!
# The life of the directory of LDAP servers

In a session over a server with nothing fixed, whose host names are distinct, every proper addition
or removal that the user consents to changes the directory by its rules, and no other request
changes it. Host names stay distinct, and a listing of all servers shows each of them once, with the
row that its addition gave.
-/

namespace SettingsConsole

open Text

/-! ## Additions and removals -/

/-- An addition whose inputs pass, or a removal that has a target. -/
def Ldap.Proper : Request → Prop
  | .edit .. => False
  | .add values => Input.checkAll values [hostnameInput, portInput] = .ok ()
  | .remove id => trim id ≠ ""

namespace Server

variable {server : Server} {r : Request} {agrees : Prompt → Bool}

/-- A proper request passes the gates before the question to the user, and no other one does. -/
theorem accept_ldap (size : UInt32) (r : Request) :
    (Ldap.Proper r ∧ ∃ a, (service size).accept (.standard .ldapServer) r =
        .ok ⟨Ldap.panel client, a, r.stripped⟩) ∨
      ¬ Ldap.Proper r ∧ ∃ e, (service size).accept (.standard .ldapServer) r = .error e := by
  have hselected : (service size).selected (.standard .ldapServer) = .ok (Ldap.panel client) := rfl
  cases r with
  | edit id values => exact .inr ⟨fun h => h, _, rfl⟩
  | add values =>
    have hdeclared : Service.declared (Ldap.panel client).descriptor .add =
        .ok ⟨.add, Message.configureLdap, some Message.confirmConfigureLdap,
          [Ldap.hostnameInput, Ldap.portInput]⟩ := rfl
    simp only [Service.accept, hselected, bind, Except.bind, Request.name, hdeclared,
      Request.trimmed, Request.values, Ldap.Proper]
    cases Input.checkAll values [Ldap.hostnameInput, Ldap.portInput] with
    | error e => exact .inr ⟨fun h => by { cases h }, e, rfl⟩
    | ok => exact .inl ⟨rfl, _, rfl⟩
  | remove id =>
    have hdeclared : Service.declared (Ldap.panel client).descriptor .remove =
        .ok ⟨.remove, Message.removeLdap, some Message.confirmRemoveLdap, []⟩ := rfl
    simp only [Service.accept, hselected, bind, Except.bind, Request.name, hdeclared,
      Request.trimmed, Request.values, Request.targetId, Ldap.Proper]
    by_cases hid : trim id = ""
    · exact .inr ⟨fun h => h hid, _, by rw [unlessBlank_trim_of_eq hid]; rfl⟩
    · exact .inl ⟨hid, _, by rw [unlessBlank_trim_of_ne hid]; rfl⟩

/-- A proper request that the user consents to is carried out by the panel. -/
theorem turn_ldap (size : UInt32) (hproper : Ldap.Proper r) (hagrees : ∀ q, agrees q = true)
    (last : Sequence) :
    ((service size).turn (.act (.standard .ldapServer) r agrees) last server).1 =
      let (result, after) := ((Ldap.panel client).perform r.stripped).run.run server
      ⟨.act (.standard .ldapServer) r agrees, server, result.map .outcome, after⟩ := by
  obtain ⟨-, a, haccept⟩ := (accept_ldap size r).resolve_right fun h => h.1 hproper
  have hconsent (p : Option Prompt) : p.all agrees = true := by
    cases p with
    | none => rfl
    | some q => exact hagrees q
  simp only [Service.turn_act, haccept, hconsent, if_true]
  rfl

section Plain

variable (hplain : server.Plain)
include hplain

/-- The panel adds a server with a new host name. -/
theorem Plain.run_add_new {values : FieldValues} {host : String} {port : UInt16}
    (hread : Ldap.newServer values = .ok (host, port))
    (hnew : ¬ ∃ s ∈ server.store.ldapServers, s.hostname = host) :
    ∃ call, (Ldap.add client values).run.run server =
      (.ok (Ldap.added ⟨host, port⟩), server.received call
        { server.store with ldapServers := server.store.ldapServers ++ [⟨host, port⟩] }) := by
  have hrange : 0 ≤ (port.toNat : Int) ∧ (port.toNat : Int) ≤ 65535 := by
    have := port.toNat_lt
    omega
  have hrespond := server.store.respond_addLdapServer host port
  rw [if_neg (mt Store.any_hostname_iff.mp hnew)] at hrespond
  have hentity := Store.read_added host hrange
  rw [Int.toNat_natCast, UInt16.ofNat_toNat] at hentity
  have hdecode := Store.decodeSingle_body .addLdapServer hentity
  rw [Ldap.add, hread]
  exact ⟨_, hplain.run_remotely_ok hrespond hdecode fun s => pure (Ldap.added s)⟩

/-- The server refuses a host name that is taken. -/
theorem Plain.run_add_taken {values : FieldValues} {host : String} {port : UInt16}
    (hread : Ldap.newServer values = .ok (host, port))
    (htaken : ∃ s ∈ server.store.ldapServers, s.hostname = host) :
    ∃ call, (Ldap.add client values).run.run server =
      (.error (.ofRemote (Store.rejected .addLdapServer "Duplicate LDAP configuration")),
        server.received call server.store) := by
  have hrespond := server.store.respond_addLdapServer host port
  rw [if_pos (Store.any_hostname_iff.mpr htaken)] at hrespond
  rw [Ldap.add, hread]
  exact ⟨_, hplain.run_remotely_error hrespond _ fun s => pure (Ldap.added s)⟩

/-- The panel removes the server with a host name. -/
theorem Plain.run_remove_there {front back : List LdapServer} {s : LdapServer}
    (hdistinct : server.store.Distinct) (hservers : server.store.ldapServers = front ++ s :: back) :
    ∃ call, (Ldap.remove client s.hostname).run.run server =
      (.ok (Outcome.signal {} .fullRefresh), server.received call
        { server.store with ldapServers := front ++ back }) := by
  have hmem : s ∈ server.store.ldapServers := by simp [hservers]
  have hrespond := server.store.respond_deleteLdapServer s.hostname
  rw [if_pos (Store.any_hostname_iff.mpr ⟨s, hmem, rfl⟩)] at hrespond
  rw [Store.Distinct, hservers] at hdistinct
  rw [hservers, Store.filter_hostname hdistinct] at hrespond
  have hdecode : expectEnvelope .deleteLdapServer (Store.body .deleteLdapServer
      [("LdapDeleteConfiguration", .object [("hostname", .str s.hostname)])]) = .ok () := by
    rw [expectEnvelope, Store.envelope_body]
    rfl
  exact ⟨_, hplain.run_remotely_ok hrespond hdecode fun _ => pure (Outcome.signal {} .fullRefresh)⟩

/-- The server refuses a host name that is missing. -/
theorem Plain.run_remove_missing {host : String}
    (hmissing : ¬ ∃ s ∈ server.store.ldapServers, s.hostname = host) :
    ∃ call, (Ldap.remove client host).run.run server =
      (.error (.ofRemote (Store.rejected .deleteLdapServer "Cannot find LDAP configuration")),
        server.received call server.store) := by
  have hrespond := server.store.respond_deleteLdapServer host
  rw [if_neg (mt Store.any_hostname_iff.mp hmissing)] at hrespond
  exact ⟨_, hplain.run_remotely_error hrespond _ fun _ =>
    pure (Outcome.signal {} .fullRefresh)⟩

/-- A proper request that the user consents to changes the LDAP servers by the rules. -/
theorem Plain.changes_ldap (hdistinct : server.store.Distinct) (size : UInt32)
    (hproper : Ldap.Proper r) (hagrees : ∀ q, agrees q = true) (last : Sequence) :
    let t := ((service size).turn (.act (.standard .ldapServer) r agrees) last server).1
    Ldap.Changes server.store.ldapServers r t.result t.after.store.ldapServers := by
  rw [turn_ldap size hproper hagrees last]
  cases r with
  | edit id values => exact hproper.elim
  | add values =>
    obtain ⟨host, port, hgives, hne, hport, hread⟩ := Ldap.newServer_of_checkAll hproper
    have hperform : (Ldap.panel client).perform (Request.add values).stripped =
        Ldap.add client values := rfl
    rw [hperform]
    by_cases htaken : ∃ s ∈ server.store.ldapServers, s.hostname = host
    · obtain ⟨call, hrun⟩ := hplain.run_add_taken hread htaken
      rw [hrun]
      exact .taken hgives htaken
    · obtain ⟨call, hrun⟩ := hplain.run_add_new hread htaken
      rw [hrun]
      exact .added hgives hne hport fun s hs hname => htaken ⟨s, hs, hname⟩
  | remove id =>
    have hperform : (Ldap.panel client).perform (Request.remove id).stripped =
        Ldap.remove client (trim id) := rfl
    rw [hperform]
    by_cases hthere : ∃ s ∈ server.store.ldapServers, s.hostname = trim id
    · obtain ⟨s, hs, hname⟩ := hthere
      obtain ⟨front, back, hservers⟩ := List.append_of_mem hs
      obtain ⟨call, hrun⟩ := hplain.run_remove_there hdistinct hservers
      rw [← hname, hrun, hservers]
      exact .removed hname
    · obtain ⟨call, hrun⟩ := hplain.run_remove_missing hthere
      rw [hrun]
      exact .missing fun s hs hname => hthere ⟨s, hs, hname⟩

end Plain

/-- A request that is not proper is refused. -/
theorem turn_ldap_refused (size : UInt32) (hproper : ¬ Ldap.Proper r) (last : Sequence) :
    let t := ((service size).turn (.act (.standard .ldapServer) r agrees) last server).1
    (∃ e, t.result = .error e) ∧ t.after = server := by
  obtain ⟨-, e, haccept⟩ := (accept_ldap size r).resolve_left fun h => hproper h.1
  rw [Service.turn_act, haccept]
  exact ⟨⟨e, rfl⟩, rfl⟩

end Server

/-! ## Listings -/

/-- The host name that a row shows. -/
def Row.hostname? (row : Row) : Option String := (row.get? "hostname").bind Json.text?

/-- The row of an LDAP server shows its host name. -/
theorem LdapServer.hostname?_toRow (s : LdapServer) : s.toRow.hostname? = some s.hostname := by
  rw [Row.hostname?, s.get?_toRow]
  rfl

namespace Server

variable {server : Server}

/-- A listing of all LDAP servers shows every one of them once, on the page that the servers before
it lead to. -/
theorem Plain.filter_items (hplain : server.Plain) (hdistinct : server.store.Distinct)
    {front back : List LdapServer} {s : LdapServer}
    (hservers : server.store.ldapServers = front ++ s :: back) (size page : UInt32)
    (last : Sequence) :
    ((service size).turn (.list (.standard .ldapServer) ⟨page, none⟩) last server).1.items.filter
        (fun row => row.hostname? = some s.hostname) =
      if max page.toNat 1 = front.length / perPage size + 1 then [s.toRow] else [] := by
  have hfilter : server.store.ldapServers.filter (fun s => Store.searched none s.hostname) =
      server.store.ldapServers := List.filter_eq_self.mpr fun _ _ => rfl
  have hall : server.store.Finds none .ldapServer
      (server.store.ldapServers.map LdapServer.toRow) := by
    rw [← hfilter]
    exact .ldapServers
  obtain ⟨call, -, hturn⟩ := hplain.turn_list hall page size last
  rw [Store.Distinct, hservers] at hdistinct
  have hne := Ldap.hostname_ne hdistinct
  have hother {servers : List LdapServer} (hsub : ∀ other ∈ servers, other ∈ front ++ back) :
      ∀ row ∈ servers.map LdapServer.toRow,
        decide (row.hostname? = some s.hostname) = false := by
    simp only [List.forall_mem_map, LdapServer.hostname?_toRow]
    exact fun other h => by simpa using hne other (hsub other h)
  simp only [hturn, Turn.items, hservers, List.map_append, List.map_cons]
  rw [Paging.filter_slice (by omega) (perPage_mem size).1 (by simp [LdapServer.hostname?_toRow])
    (hother fun _ => List.mem_append_left _) (hother fun _ => List.mem_append_right _),
    List.length_map]

end Server

/-! ## All requests -/

namespace Server

variable {server : Server}

/-- Every request keeps host names distinct, and fixes nothing. -/
theorem Plain.distinct_turn (hplain : server.Plain) (hdistinct : server.store.Distinct)
    (size : UInt32) (step : Step) (last : Sequence) :
    let after := ((service size).turn step last server).1.after
    after.Plain ∧ after.store.Distinct := by
  have hfixes (op : Operation) : op.Keeps Plain := by
    intro p s hs
    rcases s.answer_cases op p with ⟨r, hanswer⟩ | ⟨v, st, -, hanswer⟩
    · rw [hanswer]
      exact hs.received _ _
    · rw [hanswer]
      exact hs.received _ _
  have hdistincts (op : Operation) : op.Keeps fun s => s.store.Distinct :=
    Operation.keeps_of_respond _ Store.Distinct.respond
  exact ⟨keeps_turn hfixes hplain step last, keeps_turn hdistincts hdistinct step last⟩

/-- A request that is no action on LDAP servers leaves them as they are. -/
theorem ldapServers_turn (size : UInt32) {step : Step}
    (hstep : ∀ r agrees, step ≠ .act (.standard .ldapServer) r agrees) (last : Sequence) :
    ((service size).turn step last server).1.after.store.ldapServers =
      server.store.ldapServers := by
  refine keeps_store_turn (·.ldapServers = server.store.ldapServers)
    (fun resource r agrees hact op hop => ?_) rfl last
  have hresource : resource ≠ .ldapServer := by
    rintro rfl
    exact hstep r agrees hact
  exact op.keeps_of_respond (·.ldapServers = server.store.ldapServers) fun hst h =>
    (Store.ldapServers_respond hresource hop h).trans hst

/-- A request to the panel of LDAP servers leaves settings and capability entries as they are. -/
theorem apart_turn (size : UInt32) {step : Step} (hstep : step.navigation = .standard .ldapServer)
    (last : Sequence) :
    let after := ((service size).turn step last server).1.after
    after.store.settings = server.store.settings ∧
      after.store.hypervisors = server.store.hypervisors := by
  let apart (st : Store) : Prop :=
    st.settings = server.store.settings ∧ st.hypervisors = server.store.hypervisors
  refine keeps_store_turn apart (fun resource r agrees hact op hop => ?_) ⟨rfl, rfl⟩ last
  obtain rfl : resource = .ldapServer := by
    subst hact
    cases hstep
    rfl
  exact op.keeps_of_respond apart fun hst h =>
    ⟨(Store.apart_respond hop h).1.trans hst.1, (Store.apart_respond hop h).2.trans hst.2⟩

end Server

/-- What a request does to the directory of LDAP servers. -/
structure Turn.KeepsDirectory (t : Turn Server) : Prop where
  /-- Host names stay distinct. -/
  distinct : t.after.store.Distinct
  /-- A proper addition or removal that the user consents to changes the servers by the rules. -/
  changes : ∀ r agrees, t.step = .act (.standard .ldapServer) r agrees → Ldap.Proper r →
    (∀ q, agrees q = true) →
    Ldap.Changes t.before.store.ldapServers r t.result t.after.store.ldapServers
  /-- So it inserts into the map from host names to ports, or deletes from it. -/
  maps : ∀ r agrees, t.step = .act (.standard .ldapServer) r agrees → Ldap.Proper r →
    (∀ q, agrees q = true) →
    Ldap.Maps (Ldap.port? t.before.store.ldapServers) r (Ldap.port? t.after.store.ldapServers)
  /-- Any other action on the servers fails and does nothing. -/
  refused : ∀ r agrees, t.step = .act (.standard .ldapServer) r agrees → ¬ Ldap.Proper r →
    (∃ e, t.result = .error e) ∧ t.after = t.before
  /-- No other request changes the servers. -/
  others : (∀ r agrees, t.step ≠ .act (.standard .ldapServer) r agrees) →
    t.after.store.ldapServers = t.before.store.ldapServers
  /-- A request to the panel of the servers changes nothing else. -/
  apart : t.step.navigation = .standard .ldapServer →
    t.after.store.settings = t.before.store.settings ∧
      t.after.store.hypervisors = t.before.store.hypervisors
  /-- Afterwards the listing of all servers shows the row of each once, on one of its pages. -/
  listed : ∀ front s back, t.after.store.ldapServers = front ++ s :: back →
    ∀ (size page : UInt32) (last : Sequence),
      let shown := ((Server.service size).turn (.list (.standard .ldapServer) ⟨page, none⟩) last
        t.after).1.items
      shown.filter (fun row => row.hostname? = some s.hostname) =
        if max page.toNat 1 = front.length / Server.perPage size + 1 then [s.toRow] else []

namespace Server

variable {server : Server}

/-- A request keeps the directory in order if host names are distinct before it. -/
theorem Plain.keepsDirectory_turn (hplain : server.Plain) (hdistinct : server.store.Distinct)
    (size : UInt32) (step : Step) (last : Sequence) :
    ((service size).turn step last server).1.KeepsDirectory := by
  obtain ⟨hafter, hkept⟩ := hplain.distinct_turn hdistinct size step last
  refine ⟨hkept, ?_, ?_, ?_, fun h => ldapServers_turn size h last, fun h => apart_turn size h last,
    fun front s back hservers size page last => hafter.filter_items hkept hservers size page last⟩
  · rintro r agrees rfl hproper hagrees
    exact hplain.changes_ldap hdistinct size hproper hagrees last
  · rintro r agrees rfl hproper hagrees
    exact (hplain.changes_ldap hdistinct size hproper hagrees last).maps hdistinct
  · rintro r agrees rfl hproper
    exact turn_ldap_refused size hproper last

/-- In every session over a server with nothing fixed, whose host names are distinct, every request
keeps the directory of LDAP servers in order. -/
theorem keeps_directory (hplain : server.Plain) (hdistinct : server.store.Distinct) (size : UInt32)
    (steps : List Step) (last : Sequence) :
    let turns := (service size).turns steps last server
    turns.map Turn.step = steps ∧ ∀ t ∈ turns, t.KeepsDirectory := by
  refine ⟨Service.map_step_turns _ steps last server, ?_⟩
  refine Service.forall_mem_turns (fun s => s.Plain ∧ s.store.Distinct) (fun step last s hs => ?_)
    steps last ⟨hplain, hdistinct⟩
  exact ⟨hs.1.distinct_turn hs.2 size step last, hs.1.keepsDirectory_turn hs.2 size step last⟩

/-- An addition with a new host name. -/
theorem keeps_directory_addition :
    let servers : List LdapServer := [⟨"10.0.0.1", 389⟩]
    let values : FieldValues := .ofList [("hostname", " ldap.example.com "), ("port", "636")]
    let step : Step := .act (.standard .ldapServer) (.add values) fun _ => true
    let t := ((service 20).turn step .start (ofStore ⟨[], servers, []⟩)).1
    Ldap.Changes servers (.add values) t.result t.after.store.ldapServers ∧
      t.after.store.ldapServers = servers ++ [⟨"ldap.example.com", 636⟩] := by
  intro servers values step t
  have hproper : Ldap.Proper (.add values) := by
    change Input.checkAll values [Ldap.hostnameInput, Ldap.portInput] = .ok ()
    decide +kernel
  have hdistinct : (ofStore ⟨[], servers, []⟩).store.Distinct := by
    change (servers.map LdapServer.hostname).Nodup
    decide
  have hkeeps := (keeps_directory (plain_ofStore _) hdistinct 20 [step] .start).2 t
    List.mem_cons_self
  exact ⟨hkeeps.changes _ _ rfl hproper fun _ => rfl, by decide +kernel⟩

end Server

end SettingsConsole
