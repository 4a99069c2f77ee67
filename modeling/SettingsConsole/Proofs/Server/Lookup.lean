import SettingsConsole.Proofs.Server.Listing
import SettingsConsole.Proofs.Text.Split

/-!
# Looking an LDAP server up

A detail view asks for one page of the LDAP servers whose host names contain the wanted one, and
takes the first of them that has exactly this name. A server is found if fewer than 500 of those
before it contain its name. If there are more, its row is reported as missing although the server
keeps it.
-/

namespace SettingsConsole

open Text

/-! ## What a detail view should give, and what it gives -/

/-- The first element that satisfies a test is found among the first `n` of those that satisfy a
wider test exactly if fewer than `n` of the elements before it satisfy that one. -/
theorem find?_take_filter {α : Type} {exact wide : α → Bool}
    (hwide : ∀ a, exact a = true → wide a = true) (n : Nat) (as : List α) :
    ((as.filter wide).take n).find? exact =
      if (as.takeWhile fun a => !exact a).countP wide < n then as.find? exact else none := by
  induction as generalizing n with
  | nil => cases n <;> rfl
  | cons a as ih =>
    cases hexact : exact a with
    | true =>
      have ha := hwide a hexact
      cases n <;> simp [ha, hexact]
    | false =>
      cases ha : wide a with
      | true => cases n <;> simp [ha, hexact, ih]
      | false => simp [ha, hexact, ih]

namespace Store

/-- The row of the first LDAP server with exactly this host name, if there is one. -/
def exactRow (st : Store) (hostname : String) : Except PanelError Row :=
  match st.ldapServers.find? (·.hostname == hostname) with
  | some s => .ok s.toRow
  | none => .error (.rowNotFound Ldap.descriptor.id hostname)

/-- The number of LDAP servers that contain a host name and come before the first one with exactly
this name. -/
def ahead (st : Store) (hostname : String) : Nat :=
  (st.ldapServers.takeWhile fun s => !(s.hostname == hostname)).countP
    (contains ·.hostname hostname)

/-- A host name leads to the row of the first server with it, or there is no server with it. -/
theorem exactRow_cases (st : Store) (hostname : String) :
    (∃ s ∈ st.ldapServers, s.hostname = hostname ∧ st.exactRow hostname = .ok s.toRow) ∨
      (∀ s ∈ st.ldapServers, s.hostname ≠ hostname) ∧
        st.exactRow hostname = .error (.rowNotFound Ldap.descriptor.id hostname) := by
  unfold exactRow
  cases hfind : st.ldapServers.find? (·.hostname == hostname) with
  | none => exact .inr ⟨fun s hs => by simpa using List.find?_eq_none.mp hfind s hs, rfl⟩
  | some s =>
    have hs := List.find?_some hfind
    exact .inl ⟨s, List.mem_of_find?_eq_some hfind, eq_of_beq hs, rfl⟩

end Store

namespace Server

variable {server : Server} {hostname : String}

/-- The exact server is on the page that a detail view asks for if not too many are ahead of it. -/
theorem find?_slice_found (st : Store) (hhostname : trim hostname ≠ "") :
    let found := st.ldapServers.filter fun s => Store.searched (some hostname) s.hostname
    (Paging.slice 1 500 found).find? (·.hostname == hostname) =
      if st.ahead hostname < 500 then st.ldapServers.find? (·.hostname == hostname) else none := by
  have hsearched (name : String) :
      Store.searched (some hostname) name = contains name hostname := by
    simp [Store.searched, isBlank_eq_false hhostname]
  have hwide (s : LdapServer) (hs : (s.hostname == hostname) = true) :
      contains s.hostname hostname = true := by
    rw [eq_of_beq hs, contains_self]
  simp only [hsearched]
  exact find?_take_filter hwide 500 st.ldapServers

/-- The panel gives the row of the exact server if not too many are ahead of it. -/
theorem Plain.run_detail (hplain : server.Plain) (hhostname : trim hostname ≠ "") :
    (Ldap.detail client hostname).run.run server =
      (if server.store.ahead hostname < 500 then server.store.exactRow hostname
        else .error (.rowNotFound Ldap.descriptor.id hostname),
        server.received (.listLdapServers, .listing 1 500 "hostname" (some hostname))
          server.store) := by
  have hkey : "hostname" ≠ "page" ∧ "hostname" ≠ "pagesize" := by decide
  have hpage : 1 ≤ 1 ∧ 1 < 2 ^ 63 := by decide
  have hsize : 1 ≤ 500 ∧ 500 < 2 ^ 63 := by decide
  have hparams : (Client.paged ⟨1, Paging.maxSize⟩).insertSome "hostname" (some (.text hostname)) =
      .listing 1 500 "hostname" (some hostname) :=
    Client.paged_insertSome ⟨1, Paging.maxSize⟩ "hostname" (some hostname)
  have hdecode := Store.decodeList_listing .listLdapServers (by decide) LdapServer.read_toJson hkey
    hpage hsize (some hostname)
    (server.store.ldapServers.filter fun s => Store.searched (some hostname) s.hostname)
  have hrespond := server.store.respond_listLdapServers 1 500 (some hostname)
  rw [← hparams] at hdecode hrespond ⊢
  refine (hplain.run_remotely_ok hrespond hdecode _).trans ?_
  simp only [find?_slice_found _ hhostname]
  by_cases hahead : server.store.ahead hostname < 500
  · simp only [if_pos hahead, Store.exactRow]
    cases server.store.ldapServers.find? (·.hostname == hostname) <;> rfl
  · simp only [if_neg hahead]
    rfl

/-- A detail view of an LDAP server shows the row of the exact server if not too many are ahead of
it. -/
theorem Plain.turn_detail (hplain : server.Plain) {id : String} (hid : trim id ≠ "") (size : UInt32)
    (last : Sequence) :
    let t := ((service size).turn (.detail (.standard .ldapServer) id) last server).1
    t.result =
      (if server.store.ahead (trim id) < 500 then server.store.exactRow (trim id)
        else .error (.rowNotFound Ldap.descriptor.id (trim id))).map
          fun row => .row ⟨last.next.1, row⟩ := by
  intro t
  have htarget : (service size).detailTarget (.standard .ldapServer) id =
      .ok (Ldap.panel client, trim id) := by
    rw [Service.detailTarget_of_hasDetail (p := Ldap.panel client) rfl rfl, Request.targetId,
      unlessBlank_trim_of_ne hid]
    rfl
  have hrun := hplain.run_detail (trim_trim_ne hid)
  have hdetail : (Ldap.panel client).detail = Ldap.detail client := rfl
  simp only [t, Service.turn_detail, htarget, hdetail, hrun]

/-- Over a server with nothing fixed, a detail view gives the row of the first LDAP server with
exactly the wanted host name, or reports that there is none, unless there is one with 500 servers
ahead of it that contain its name. Then it reports that there is none, too. -/
theorem detail_exact_iff (hplain : server.Plain) {id : String} (hid : trim id ≠ "") (size : UInt32)
    (last : Sequence) :
    let st := server.store
    let t := ((service size).turn (.detail (.standard .ldapServer) id) last server).1
    let expected := (st.exactRow (trim id)).map fun row => Reply.row ⟨last.next.1, row⟩
    (t.result = expected ↔
        ((∃ s ∈ st.ldapServers, s.hostname = trim id) → st.ahead (trim id) < 500)) ∧
      (t.result ≠ expected → t.result = .error (.rowNotFound Ldap.descriptor.id (trim id))) := by
  intro st t expected
  have hresult : t.result = _ := hplain.turn_detail hid size last
  by_cases hahead : st.ahead (trim id) < 500
  · rw [if_pos hahead] at hresult
    exact ⟨⟨fun _ _ => hahead, fun _ => hresult⟩, fun hne => absurd hresult hne⟩
  · rw [if_neg hahead] at hresult
    refine ⟨?_, fun _ => hresult⟩
    rcases st.exactRow_cases (trim id) with ⟨s, hs, hname, hrow⟩ | ⟨hnone, hrow⟩
    · have hne : t.result ≠ expected := by
        simp only [hresult, expected, hrow]
        intro h
        cases h
      exact ⟨fun h => absurd h hne, fun h => absurd (h ⟨s, hs, hname⟩) hahead⟩
    · have heq : t.result = expected := by simp only [hresult, expected, hrow]
      exact ⟨fun _ ⟨s, hs, hname⟩ => absurd hname (hnone s hs), fun _ => heq⟩

/-- A server is found after one whose name only contains the wanted one. -/
theorem detail_exact_after_longer :
    let servers : List LdapServer := [⟨"10.0.0.10", 389⟩, ⟨"10.0.0.1", 636⟩]
    ((service 20).turn (.detail (.standard .ldapServer) " 10.0.0.1 ") .start
      (ofStore ⟨[], servers, []⟩)).1.result =
        .ok (.row ⟨1, LdapServer.toRow ⟨"10.0.0.1", 636⟩⟩) := by
  intro servers
  have htrim : trim " 10.0.0.1 " = "10.0.0.1" := by decide +kernel
  have hahead : Store.ahead ⟨[], servers, []⟩ (trim " 10.0.0.1 ") < 500 := by decide +kernel
  have hrow : Store.exactRow ⟨[], servers, []⟩ "10.0.0.1" =
      .ok (LdapServer.toRow ⟨"10.0.0.1", 636⟩) := by simp [Store.exactRow, servers]
  have hid : trim " 10.0.0.1 " ≠ "" := by rw [htrim]; decide
  have hresult := (detail_exact_iff (plain_ofStore ⟨[], servers, []⟩) hid 20 .start).1.mpr
    fun _ => hahead
  rw [htrim] at hresult
  exact hresult.trans (congrArg _ hrow)

/-- `n` LDAP servers in a domain. -/
def members (n : Nat) : List LdapServer :=
  (List.range n).map fun i => ⟨toString i ++ "." ++ "example.com", 389⟩

/-- `n` LDAP servers in a domain, and the server of the domain itself after them. -/
def crowded (n : Nat) : Store := ⟨[], members n ++ [⟨"example.com", 636⟩], []⟩

/-- The names of the servers in the domain contain that of the domain, and are other names. -/
theorem forall_mem_members (n : Nat) :
    ∀ s ∈ members n, (s.hostname == "example.com") = false ∧
      contains s.hostname "example.com" = true := by
  simp only [members, List.forall_mem_map]
  exact fun i _ => ⟨by simp, contains_append _ _⟩

/-- The servers in the domain are ahead of that of the domain. -/
theorem ahead_crowded (n : Nat) : (crowded n).ahead "example.com" = n := by
  have hother (s : LdapServer) (hs : s ∈ members n) : (!(s.hostname == "example.com")) = true := by
    rw [(forall_mem_members n s hs).1, Bool.not_false]
  have hcount : (members n).countP (contains ·.hostname "example.com") = n := by
    rw [List.countP_eq_length.mpr fun s hs => (forall_mem_members n s hs).2]
    simp [members]
  rw [Store.ahead, crowded, List.takeWhile_append_of_pos hother]
  simpa using hcount

/-- The server of the domain is the exact one. -/
theorem exactRow_crowded (n : Nat) :
    (crowded n).exactRow "example.com" = .ok (LdapServer.toRow ⟨"example.com", 636⟩) := by
  have hnone : (members n).find? (·.hostname == "example.com") = none :=
    List.find?_eq_none.mpr fun s hs => by simp [(forall_mem_members n s hs).1]
  have hfind : (crowded n).ldapServers.find? (·.hostname == "example.com") =
      some ⟨"example.com", 636⟩ := by
    simp [crowded, List.find?_append, hnone]
  rw [Store.exactRow, hfind]

/-- After 500 servers in the domain, that of the domain is not found. -/
theorem detail_misses_crowded :
    (crowded 500).exactRow "example.com" = .ok (LdapServer.toRow ⟨"example.com", 636⟩) ∧
      ((service 20).turn (.detail (.standard .ldapServer) "example.com") .start
        (ofStore (crowded 500))).1.result =
          .error (.rowNotFound "ldapConfiguration" "example.com") := by
  have htrim : trim "example.com" = "example.com" := by decide +kernel
  have hid : trim "example.com" ≠ "" := by rw [htrim]; decide
  have hresult := (plain_ofStore (crowded 500)).turn_detail hid 20 .start
  have hahead : ¬ (ofStore (crowded 500)).store.ahead "example.com" < 500 :=
    Nat.not_lt.mpr (Nat.le_of_eq (ahead_crowded 500).symm)
  rw [htrim, if_neg hahead] at hresult
  exact ⟨exactRow_crowded 500, hresult⟩

end Server

end SettingsConsole
