import SettingsConsole.Proofs.Server.Calls
import SettingsConsole.Proofs.Service.Calls
import Mathlib.Algebra.Group.Nat.Defs

/-!
# Lists, page by page

A listing of settings or of LDAP servers is restricted to the names that contain a text, unless the
text is blank. The server skips the rows of the pages before and sends those of the page, with the
number of all of them. Asking for one page after another gives every row once, in the order of the
server, and the number of rows to skip stays within what the server can count.
-/

namespace SettingsConsole

open Text

/-! ## What the server reads from the parameters -/

/-- The parameters of a listing hold the page, its size, and a text to search for unless it is
blank. -/
theorem Params.get?_listing {key : String} (hkey : key ≠ "page" ∧ key ≠ "pagesize")
    (page size : Nat) (search : Option String) (other : String) :
    (listing page size key search).get? other =
      if other = key then (search.filter fun text => !isBlank text).map .text
      else if other = "pagesize" then some (.number (Int64.ofNat size))
      else if other = "page" then some (.number (Int64.ofNat page))
      else none := by
  have hpaging : (Dict.ofList [("page", ParamValue.number (Int64.ofNat page)),
      ("pagesize", .number (Int64.ofNat size))]).get? other =
        if other = "pagesize" then some (.number (Int64.ofNat size))
        else if other = "page" then some (.number (Int64.ofNat page)) else none := by
    simp only [Dict.get?_ofList, List.reverse_cons, List.reverse_nil, List.nil_append,
      List.singleton_append, List.lookup_cons, List.lookup_nil]
    grind
  have hsearch : search.toList.filter (fun text => decide (trim text ≠ "")) =
      (search.filter fun text => !isBlank text).toList := by
    cases search with
    | none => rfl
    | some text =>
      by_cases hblank : trim text = ""
      · simp [hblank, (trim_eq_empty_iff text).mp hblank, Option.filter]
      · simp [hblank, isBlank_eq_false hblank, Option.filter]
  rw [listing, hsearch]
  cases search.filter fun text => !isBlank text with
  | none =>
    rw [Option.toList_none, List.map_nil, List.append_nil, hpaging]
    grind
  | some text =>
    rw [Option.toList_some, List.map_singleton, Dict.ofList_append_singleton, Dict.get?_insert,
      hpaging]
    rfl

namespace Store

/-- A number in range is read from its parameter, and one at least. -/
theorem countOf_number {p : Params} {key : String} {n : Nat}
    (h : p.get? key = some (.number (Int64.ofNat n))) (hn : n < 2 ^ 63) (absent : Int) :
    countOf p key absent = max n 1 := by
  have hnumber : number? p key = some (n : Int) := by
    simp only [number?, h, Int64.toInt_ofNat_of_lt hn]
  rw [countOf, hnumber, Option.getD_some]
  omega

/-- The size of the page that a listing asks for. -/
theorem countOf_pagesize_listing {key : String} (hkey : key ≠ "page" ∧ key ≠ "pagesize")
    (page : Nat) {size : Nat} (hsize : 1 ≤ size ∧ size < 2 ^ 63) (search : Option String) :
    countOf (.listing page size key search) "pagesize" 20 = size := by
  have hget := Params.get?_listing hkey page size search "pagesize"
  rw [if_neg hkey.2.symm, if_pos rfl] at hget
  rw [countOf_number hget hsize.2]
  omega

/-- The number of rows before the page that a listing asks for. -/
theorem offset_listing {key : String} (hkey : key ≠ "page" ∧ key ≠ "pagesize") {page size : Nat}
    (hpage : 1 ≤ page ∧ page < 2 ^ 63) (hsize : 1 ≤ size ∧ size < 2 ^ 63)
    (search : Option String) : offset (.listing page size key search) = (page - 1) * size := by
  have hget := Params.get?_listing hkey page size search "page"
  rw [if_neg hkey.1.symm, if_neg (by decide), if_pos rfl] at hget
  rw [offset, countOf_pagesize_listing hkey page hsize, countOf_number hget hpage.2,
    Nat.max_eq_left hpage.1]

/-- Whether a name is found: it contains the text that is searched for, unless there is none or it
is blank. -/
def searched (search : Option String) (name : String) : Bool :=
  search.all fun text => isBlank text || contains name text

/-- The server restricts a listing to the names that are found. -/
theorem matchesText_listing {key : String} (hkey : key ≠ "page" ∧ key ≠ "pagesize")
    (page size : Nat) (search : Option String) (name : String) :
    matchesText name ((Params.listing page size key search).display? key) =
      searched search name := by
  rw [Params.display?, Params.get?_listing hkey, if_pos rfl]
  cases search with
  | none => rfl
  | some text =>
    cases hblank : isBlank text <;>
      simp [Option.filter, hblank, matchesText, searched, ParamValue.display]

/-! ## Listings of a store -/

/-- The rows that are found among the settings or the LDAP servers, in the order of the server. -/
inductive Finds (st : Store) (search : Option String) : Resource → List Row → Prop
  | settings :
      Finds st search .setting
        ((st.settings.filter fun s => searched search s.name).map Setting.toRow)
  | ldapServers :
      Finds st search .ldapServer
        ((st.ldapServers.filter fun s => searched search s.hostname).map LdapServer.toRow)

/-- The server answers a listing of settings with those that are found. -/
theorem respond_listSettings (st : Store) (page size : Nat) (search : Option String) :
    let p := Params.listing page size "name" search
    st.respond .listSettings p = .ok (listBody .listSettings Setting.toJson
      (st.settings.filter fun s => searched search s.name) p, st) := by
  have hkey : "name" ≠ "page" ∧ "name" ≠ "pagesize" := by decide
  simp only [respond, listSettings, matchesText_listing hkey]

/-- The server answers a listing of LDAP servers with those that are found. -/
theorem respond_listLdapServers (st : Store) (page size : Nat) (search : Option String) :
    let p := Params.listing page size "hostname" search
    st.respond .listLdapServers p = .ok (listBody .listLdapServers LdapServer.toJson
      (st.ldapServers.filter fun s => searched search s.hostname) p, st) := by
  have hkey : "hostname" ≠ "page" ∧ "hostname" ≠ "pagesize" := by decide
  simp only [respond, listLdapServers, matchesText_listing hkey]

/-- A listing is read as the rows on the page that it asks for, with the number of all rows if it
fits. -/
theorem decodeList_listing {α : Type} (s : Schema α) {toJson : α → Json} {key : String}
    (hentity : s.key ≠ "count") (hread : ∀ a, s.entity.read (toJson a) = .ok a)
    (hkey : key ≠ "page" ∧ key ≠ "pagesize") {page size : Nat} (hpage : 1 ≤ page ∧ page < 2 ^ 63)
    (hsize : 1 ≤ size ∧ size < 2 ^ 63) (search : Option String) (rows : List α) :
    s.decodeList (listBody s toJson rows (.listing page size key search)) =
      .ok ⟨Paging.slice page size rows, Json.word32? (.ofNat rows.length)⟩ := by
  rw [decodeList_listBody s hentity hread, offset_listing hkey hpage hsize,
    countOf_pagesize_listing hkey page hsize]
  rfl

end Store

/-- The rows that a request shows. -/
def Turn.items {σ : Type} (t : Turn σ) : List Row :=
  match t.result with
  | .ok (.page p) => p.value.items
  | _ => []

namespace Server

variable {server : Server} {search : Option String} {resource : Resource} {rows : List Row}

/-- The number of rows on a page that is nearest to the wanted one between 1 and 500. -/
def perPage (size : UInt32) : Nat := min (max size.toNat 1) 500

/-- A page has from 1 to 500 rows. -/
theorem perPage_mem (size : UInt32) : 1 ≤ perPage size ∧ perPage size ≤ 500 := by
  unfold perPage
  omega

/-- A panel whose listing the server answers with some of its entities gives the rows of those on
the page, with the number of all of them if it fits. -/
theorem Plain.run_listing {α : Type} (hplain : server.Plain) (s : Schema α) {toJson : α → Json}
    (toRow : α → Row) {key : String} (hentity : s.key ≠ "count")
    (hread : ∀ a, s.entity.read (toJson a) = .ok a) (hkey : key ≠ "page" ∧ key ≠ "pagesize")
    {as : List α} (hrespond : ∀ page size, let p := Params.listing page size key search
      server.store.respond s.operation p = .ok (Store.listBody s toJson as p, server.store))
    (page size : UInt32) :
    let paging := Paging.validated ⟨page, Paging.clampSize size⟩ Paging.maxSize
      Paging.one_le_maxSize
    ∃ call, Store.offset call.2 = (max page.toNat 1 - 1) * perPage size ∧
      ExceptT.run (do
        let page ← Panel.remotely do
          let v ← client.call s.operation ((Client.paged paging).insertSome key (search.map .text))
          ExceptT.mk (pure (s.decodeList v))
        pure (page.map toRow)) server =
        (.ok ⟨Paging.slice (max page.toNat 1) (perPage size) (as.map toRow),
            Json.word32? (.ofNat (as.map toRow).length)⟩,
          server.received call server.store) := by
  intro paging
  have hparams : (Client.paged paging).insertSome key (search.map .text) =
      .listing (max page.toNat 1) (perPage size) key search := by
    rw [Client.paged_insertSome, perPage, Paging.toNat_page_validated,
      Paging.toNat_size_validated_clampSize]
  have hpage : 1 ≤ max page.toNat 1 ∧ max page.toNat 1 < 2 ^ 63 := by
    have := page.toNat_lt
    omega
  have hsize : 1 ≤ perPage size ∧ perPage size < 2 ^ 63 := by
    have := perPage_mem size
    omega
  have hdecode := Store.decodeList_listing s hentity hread hkey hpage hsize search as
  refine ⟨(s.operation, .listing (max page.toNat 1) (perPage size) key search),
    Store.offset_listing hkey hpage hsize search, ?_⟩
  rw [hparams, List.length_map]
  refine (hplain.run_remotely_ok (hrespond _ _) hdecode _).trans ?_
  rw [← Paging.map_slice]
  rfl

/-- The panel gives the rows on the page that it is asked for, with the number of all rows that are
found if it fits. The number of rows to skip is that of the pages before. -/
theorem Plain.run_list (hplain : server.Plain) (hfinds : server.store.Finds search resource rows)
    (page size : UInt32) :
    let paging := Paging.validated ⟨page, Paging.clampSize size⟩ Paging.maxSize
      Paging.one_le_maxSize
    ∃ call, Store.offset call.2 = (max page.toNat 1 - 1) * perPage size ∧
      ((Registry.standardPanel client resource).list ⟨paging.page, search⟩ paging.size).run.run
          server =
        (.ok ⟨Paging.slice (max page.toNat 1) (perPage size) rows,
            Json.word32? (.ofNat rows.length)⟩,
          server.received call server.store) := by
  cases hfinds with
  | settings =>
    exact hplain.run_listing .listSettings Setting.toRow (by decide) Setting.read_toJson
      (by decide) (fun _ _ => Store.respond_listSettings ..) page size
  | ldapServers =>
    exact hplain.run_listing .listLdapServers LdapServer.toRow (by decide) LdapServer.read_toJson
      (by decide) (fun _ _ => Store.respond_listLdapServers ..) page size

/-- A request for a page gives the rows on it, with the number of all rows that are found if it
fits. The number of rows to skip is that of the pages before. -/
theorem Plain.turn_list (hplain : server.Plain) (hfinds : server.store.Finds search resource rows)
    (page size : UInt32) (last : Sequence) :
    ∃ call, Store.offset call.2 = (max page.toNat 1 - 1) * perPage size ∧
      (service size).turn (.list (.standard resource) ⟨page, search⟩) last server =
        (⟨.list (.standard resource) ⟨page, search⟩, server,
          .ok (.page ⟨last.next.1, Paging.slice (max page.toNat 1) (perPage size) rows,
            Json.word32? (.ofNat rows.length)⟩),
          server.received call server.store⟩, last.next.2) := by
  obtain ⟨call, hoffset, hrun⟩ := hplain.run_list hfinds page size
  have hp : (service size).selected (.standard resource) =
      .ok (Registry.standardPanel client resource) := by cases resource <;> rfl
  have hsize : (service size).pageSize = Paging.clampSize size := rfl
  refine ⟨call, hoffset, ?_⟩
  simp only [Service.turn_list, hp, hsize, hrun]
  rfl

/-- Requests for any pages one after another give the rows on these pages. -/
theorem Plain.flatMap_items_turns (hplain : server.Plain)
    (hfinds : server.store.Finds search resource rows) (size : UInt32) (pages : List UInt32)
    (last : Sequence) :
    ((service size).turns (pages.map fun page => .list (.standard resource) ⟨page, search⟩) last
        server).flatMap Turn.items =
      pages.flatMap fun page => Paging.slice (max page.toNat 1) (perPage size) rows := by
  induction pages generalizing last server with
  | nil => rfl
  | cons page pages ih =>
    obtain ⟨call, -, hturn⟩ := hplain.turn_list hfinds page size last
    have hrest := ih (hplain.received call server.store) hfinds last.next.2
    simp only [List.map_cons, Service.turns, hturn, List.flatMap_cons, hrest]
    rfl

/-- Over a server with nothing fixed, the pages of a listing share out the rows that are found. From
the first page to the last one they are all rows in their order. Every page is full, but for the
last one, and those after it are empty; each gives the number of all rows. Page zero is the first
page. The number of rows to skip is never out of range. -/
theorem list_pages (hplain : server.Plain) (hfinds : server.store.Finds search resource rows)
    (hrows : rows.length < 2 ^ 32) (size : UInt32) (last : Sequence) :
    let request (page : UInt32) : Step := .list (.standard resource) ⟨page, search⟩
    let turn (page : UInt32) := ((service size).turn (request page) last server).1
    let pages := Paging.pageCount (perPage size) rows.length
    let all : List UInt32 := (List.range pages).map fun i => .ofNat (i + 1)
    ((service size).turns (all.map request) last server).flatMap Turn.items = rows ∧
      (∀ page, (turn page).result = .ok (.page ⟨last.next.1, (turn page).items,
        some (.ofNat rows.length)⟩)) ∧
      (∀ page, 1 ≤ page.toNat → page.toNat ≤ pages → (turn page).items.length =
        min (perPage size) (rows.length - (page.toNat - 1) * perPage size)) ∧
      (∀ page, pages < page.toNat → (turn page).items = []) ∧
      (turn 0).result = (turn 1).result ∧
      ∀ page, ∃ call, (turn page).after = server.received call server.store ∧
        Store.offset call.2 < 2 ^ 63 := by
  intro request turn pages all
  have hsize := perPage_mem size
  have hcount : Json.word32? (.ofNat rows.length) = some (.ofNat rows.length) := if_pos (by omega)
  have hturn (page : UInt32) := hplain.turn_list hfinds page size last
  have hresult (page : UInt32) : (turn page).result = .ok (.page ⟨last.next.1,
      Paging.slice (max page.toNat 1) (perPage size) rows, some (.ofNat rows.length)⟩) := by
    obtain ⟨call, -, h⟩ := hturn page
    simp only [turn, request, h, hcount]
  have hitems (page : UInt32) :
      (turn page).items = Paging.slice (max page.toNat 1) (perPage size) rows := by
    simp only [Turn.items, hresult]
  refine ⟨?_, fun page => ?_, fun page hfirst _ => ?_, fun page hpast => ?_, ?_, fun page => ?_⟩
  · have hpages : pages < 2 ^ 32 :=
      Nat.lt_of_le_of_lt (Paging.pageCount_le hsize.1 rows.length) hrows
    refine (hplain.flatMap_items_turns hfinds size all last).trans ?_
    refine Eq.trans ?_ (Paging.flatMap_slice_pageCount hsize.1 rows)
    rw [List.flatMap_map]
    refine List.flatMap_congr fun i hi => ?_
    have hi := List.mem_range.mp hi
    rw [UInt32.toNat_ofNat_of_lt' (by change i + 1 < 2 ^ 32; omega), Nat.max_eq_left (by omega)]
  · rw [hresult, hitems]
  · rw [hitems, Paging.length_slice, Nat.max_eq_left hfirst]
  · rw [hitems, Paging.slice_eq_nil hsize.1 (by omega)]
  · rw [hresult, hresult]
    rfl
  · obtain ⟨call, hoffset, h⟩ := hturn page
    refine ⟨call, by simp only [turn, request, h], ?_⟩
    have hpage := page.toNat_lt
    have hle : Store.offset call.2 ≤ 2 ^ 32 * 500 :=
      hoffset ▸ Nat.mul_le_mul (by omega) hsize.2
    omega

/-- Two servers on pages of one row. -/
theorem list_pages_two_servers :
    let servers : List LdapServer := [⟨"ldap.example.com", 389⟩, ⟨"backup.example.com", 636⟩]
    let request (page : UInt32) : Step := .list (.standard .ldapServer) ⟨page, none⟩
    ((service 1).turns [request 1, request 2] .start (ofStore ⟨[], servers, []⟩)).flatMap
      Turn.items = servers.map LdapServer.toRow := by
  intro servers request
  have hfinds : Store.Finds ⟨[], servers, []⟩ none .ldapServer (servers.map LdapServer.toRow) :=
    .ldapServers
  have hpages : (List.range (Paging.pageCount (perPage 1) 2)).map (fun i => UInt32.ofNat (i + 1)) =
      [1, 2] := by decide
  have hitems := (list_pages (plain_ofStore _) hfinds (by decide) 1 .start).1
  rw [List.length_map, show servers.length = 2 from rfl, hpages] at hitems
  exact hitems

end Server

end SettingsConsole
