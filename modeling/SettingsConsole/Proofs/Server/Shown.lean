import SettingsConsole.Proofs.Server.Listing

/-!
# What the server shows of its entries

A listing without a search shows all entries that the server keeps: each of them stands on the page
that the entries before it lead to, whatever the size of a page. A detail view of a capability entry
shows the first entry with its identifier.
-/

namespace SettingsConsole

open Text

/-- The row at a position is on the page that the rows before it lead to. -/
theorem Paging.getElem?_slice {α : Type} {size : Nat} (hsize : 1 ≤ size) (position : Nat)
    (rows : List α) :
    (slice (position / size + 1) size rows)[position % size]? = rows[position]? := by
  have hlt : position % size < size := Nat.mod_lt _ hsize
  have hposition : position / size * size + position % size = position := by
    rw [Nat.mul_comm]
    exact Nat.div_add_mod position size
  rw [slice, List.getElem?_take_of_lt hlt, List.getElem?_drop, Nat.add_sub_cancel, hposition]

namespace Store

/-- The rows of all entries that are kept, in the order of the server. -/
def rows (st : Store) : Resource → List Row
  | .setting => st.settings.map Setting.toRow
  | .ldapServer => st.ldapServers.map LdapServer.toRow
  | .hypervisor => st.hypervisors.map HypervisorCapability.toRow

/-- The store lists all capability entries if there is no keyword. -/
theorem respond_listHypervisors (st : Store) (page size : Nat) :
    let p := Params.listing page size "keyword" none
    st.respond .listHypervisors p =
      .ok (listBody .listHypervisors HypervisorCapability.toJson st.hypervisors p, st) := by
  intro p
  have hget (key : String) (hkey : key ≠ "pagesize" ∧ key ≠ "page") : p.display? key = none := by
    rw [Params.display?, Params.get?_listing (by decide), if_neg hkey.1, if_neg hkey.2]
    split <;> rfl
  have hall : st.hypervisors.filter (fun h => (none : Option String).all (h.id == ·) &&
      matchesText (Unicode.lower h.hypervisor) ((none : Option String).map Unicode.lower)) =
      st.hypervisors := List.filter_eq_self.mpr fun _ _ => rfl
  simp only [respond, listHypervisors, hget "id" (by decide), hget "keyword" (by decide), hall]

/-- The store lists the capability entries with exactly the wanted identifier. -/
theorem respond_listHypervisors_id (st : Store) (page size : Nat) {id : String}
    (hid : trim id ≠ "") :
    let p := Params.listing page size "id" (some id)
    st.respond .listHypervisors p =
      .ok (listBody .listHypervisors HypervisorCapability.toJson
        (st.hypervisors.filter (·.id == id)) p, st) := by
  intro p
  have hget : p.display? "id" = some id := by
    rw [Params.display?, Params.get?_listing (by decide), if_pos rfl]
    simp [Option.filter, isBlank_eq_false hid, ParamValue.display]
  have hkeyword : p.display? "keyword" = none := by
    rw [Params.display?, Params.get?_listing (by decide)]
    rfl
  simp [respond, listHypervisors, hget, hkeyword, matchesText]

end Store

namespace Server

variable {server : Server}

/-- Whatever the size of a page, a listing of all entries shows a row at a position, on the page
that the entries before it lead to. -/
def ListsAt (server : Server) (resource : Resource) (position : Nat) (row : Row) : Prop :=
  ∀ (size page : UInt32) (last : Sequence), page.toNat = position / perPage size + 1 →
    ((service size).turn (.list (.standard resource) ⟨page, none⟩) last server).1.items[
      position % perPage size]? = some row

/-- A panel lists the rows on the page that it is asked for. -/
theorem Plain.run_list_all (hplain : server.Plain) (resource : Resource) (page size : UInt32) :
    let paging := Paging.validated ⟨page, Paging.clampSize size⟩ Paging.maxSize
      Paging.one_le_maxSize
    ∃ call,
      ((Registry.standardPanel client resource).list ⟨paging.page, none⟩ paging.size).run.run
          server =
        (.ok ⟨Paging.slice (max page.toNat 1) (perPage size) (server.store.rows resource),
            Json.word32? (.ofNat (server.store.rows resource).length)⟩,
          server.received call server.store) := by
  have hsettings : server.store.settings.filter (fun s => Store.searched none s.name) =
      server.store.settings := List.filter_eq_self.mpr fun _ _ => rfl
  have hservers : server.store.ldapServers.filter (fun s => Store.searched none s.hostname) =
      server.store.ldapServers := List.filter_eq_self.mpr fun _ _ => rfl
  cases resource with
  | setting =>
    have hfinds : server.store.Finds none .setting _ := .settings
    rw [hsettings] at hfinds
    obtain ⟨call, -, hrun⟩ := hplain.run_list hfinds page size
    exact ⟨call, hrun⟩
  | ldapServer =>
    have hfinds : server.store.Finds none .ldapServer _ := .ldapServers
    rw [hservers] at hfinds
    obtain ⟨call, -, hrun⟩ := hplain.run_list hfinds page size
    exact ⟨call, hrun⟩
  | hypervisor =>
    obtain ⟨call, -, hrun⟩ := hplain.run_listing .listHypervisors
      HypervisorCapability.toRow (by decide) HypervisorCapability.read_toJson (by decide)
      (fun _ _ => server.store.respond_listHypervisors ..) page size
    exact ⟨call, hrun⟩

/-- A request for a page of all entries gives the rows on it. -/
theorem Plain.items_turn_list (hplain : server.Plain) (resource : Resource) (size page : UInt32)
    (last : Sequence) :
    ((service size).turn (.list (.standard resource) ⟨page, none⟩) last server).1.items =
      Paging.slice (max page.toNat 1) (perPage size) (server.store.rows resource) := by
  obtain ⟨call, hrun⟩ := hplain.run_list_all resource page size
  have hp : (service size).selected (.standard resource) =
      .ok (Registry.standardPanel client resource) := by cases resource <;> rfl
  have hsize : (service size).pageSize = Paging.clampSize size := rfl
  simp only [Service.turn_list, hp, hsize, hrun]
  rfl

/-- Every row is listed at its position. -/
theorem Plain.listsAt (hplain : server.Plain) {resource : Resource} {position : Nat} {row : Row}
    (h : (server.store.rows resource)[position]? = some row) :
    server.ListsAt resource position row := by
  intro size page last hpage
  have hfirst : max page.toNat 1 = position / perPage size + 1 := by
    rw [hpage]
    exact Nat.max_eq_left (Nat.le_add_left 1 _)
  rw [hplain.items_turn_list, hfirst, Paging.getElem?_slice (perPage_mem size).1, h]

/-- The panel gives the row of the first capability entry with an identifier. -/
theorem Plain.run_detail_hypervisor (hplain : server.Plain) {id : String} (hid : trim id ≠ "") :
    (Hypervisors.detail client id).run.run server =
      (match server.store.hypervisors.find? (·.id == id) with
        | some h => .ok h.toRow
        | none => .error (.rowNotFound Hypervisors.descriptor.id id),
        server.received (.listHypervisors, .listing 1 20 "id" (some id)) server.store) := by
  have hparams : (Client.paged Paging.default).insertSome "id" (some (.text id)) =
      .listing 1 20 "id" (some id) :=
    Client.paged_insertSome Paging.default "id" (some id)
  have hkey : "id" ≠ "page" ∧ "id" ≠ "pagesize" := by decide
  have hpage : 1 ≤ 1 ∧ 1 < 2 ^ 63 := by decide
  have hsize : 1 ≤ 20 ∧ 20 < 2 ^ 63 := by decide
  have hdecode := Store.decodeList_listing .listHypervisors (by decide)
    HypervisorCapability.read_toJson hkey hpage hsize (some id)
    (server.store.hypervisors.filter (·.id == id))
  have hrespond := server.store.respond_listHypervisors_id 1 20 hid
  have hhead : (Paging.slice 1 20 (server.store.hypervisors.filter (·.id == id))).head? =
      server.store.hypervisors.find? (·.id == id) := by
    rw [← List.head?_filter]
    cases server.store.hypervisors.filter (·.id == id) <;> rfl
  rw [← hparams] at hdecode hrespond ⊢
  refine (hplain.run_remotely_ok hrespond hdecode _).trans ?_
  simp only [hhead]
  cases server.store.hypervisors.find? (·.id == id) <;> rfl

/-- A detail view of a capability entry shows the row of the first one with the trimmed
identifier. -/
theorem Plain.result_turn_detail_hypervisor (hplain : server.Plain) {id : String}
    (hid : trim id ≠ "") {h : HypervisorCapability}
    (hfind : server.store.hypervisors.find? (·.id == trim id) = some h) (size : UInt32)
    (last : Sequence) :
    ((service size).turn (.detail (.standard .hypervisor) id) last server).1.result =
      .ok (.row ⟨last.next.1, h.toRow⟩) := by
  have htarget : (service size).detailTarget (.standard .hypervisor) id =
      .ok (Hypervisors.panel client, trim id) := by
    rw [Service.detailTarget_of_hasDetail (p := Hypervisors.panel client) rfl rfl,
      Request.targetId, unlessBlank_trim_of_ne hid]
    rfl
  have hrun := hplain.run_detail_hypervisor (trim_trim_ne hid)
  have hdetail : (Hypervisors.panel client).detail = Hypervisors.detail client := rfl
  simp only [Service.turn_detail, htarget, hdetail, hrun, hfind]
  rfl

end Server

end SettingsConsole
