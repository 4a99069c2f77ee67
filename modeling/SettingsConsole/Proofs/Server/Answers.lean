import SettingsConsole.Proofs.Entity.Reading
import SettingsConsole.Proofs.Remote.Decoding
import SettingsConsole.Server

/-!
# What the server writes is read

The answers that the server computes are read without fault: a listing as the rows of the page with
the number of all rows, and a single entity as itself. So whatever the server keeps, no change that
it makes is followed by an unreadable answer.
-/

namespace SettingsConsole

/-- Items are read back from what was written for each of them. -/
theorem Decode.items_map {α : Type} {read : Json → Except Fault α} {toJson : α → Json}
    (hread : ∀ a, read (toJson a) = .ok a) (as : List α) :
    items read (.arr (as.map toJson)) = .ok as := by
  have hpure : read ∘ toJson = fun a => (pure a : Except Fault α) := funext hread
  rw [items, List.mapM_map, hpure, List.mapM_pure, List.map_id']
  rfl

namespace Store

/-- The contents of an answer are inside its envelope. -/
theorem inside_body (op : Operation) (inside : List (String × Json)) :
    Inside op (body op inside) (Dict.ofList inside).toList := by
  refine ⟨[(op.envelope, .object inside)], rfl, ?_⟩
  simp [Json.object, Json.ofDict]

/-- The contents of an answer are found under its envelope. -/
theorem envelope_body (op : Operation) (inside : List (String × Json)) :
    envelope op (body op inside) = .ok (Dict.ofList inside).toList :=
  envelope_of_inside (inside_body op inside)

/-- A single entity is read from an answer that holds it. -/
theorem decodeSingle_body {α : Type} (s : Schema α) {v : Json} {a : α}
    (hread : s.entity.read v = .ok a) : s.decodeSingle (body s.operation [(s.key, v)]) = .ok a := by
  have hkey : (Dict.ofList [(s.key, v)]).toList.lookup s.key = some v := by
    change List.lookup s.key [(s.key, v)] = some v
    simp
  simp only [s.decodeSingle_of_inside (inside_body _ _), hkey, hread]
  rfl

/-- An answer without contents is read as the page of an empty list. -/
theorem decodeList_body_nil {α : Type} (s : Schema α) :
    s.decodeList (body s.operation []) = .ok .empty :=
  s.decodeList_of_vacant (inside_body _ _) rfl (.inl rfl)

/-- An answer with a number and items is read as the page with these. -/
theorem decodeList_body {α : Type} (s : Schema α) (hkey : s.key ≠ "count") (n : Nat) {items : Json}
    {as : List α} (hitems : Decode.items s.entity.read items = .ok as) :
    s.decodeList (body s.operation [("count", .ofNat n), (s.key, items)]) =
      .ok ⟨as, Json.word32? (.ofNat n)⟩ := by
  let members := (Dict.ofList [("count", .ofNat n), (s.key, items)]).toList
  have hcount : members.lookup "count" = some (.ofNat n) := by
    change (Dict.ofList _).get? "count" = _
    rw [Dict.get?_ofList]
    simp [List.lookup_cons, beq_eq_false_iff_ne.mpr hkey.symm]
  have hentities : members.lookup s.key = some items := by
    change (Dict.ofList _).get? s.key = _
    rw [Dict.get?_ofList]
    simp
  have hinside : Inside s.operation (body s.operation [("count", .ofNat n), (s.key, items)])
      members := inside_body _ _
  simp only [s.decodeList_of_lookup_some hinside hentities, hitems, hcount, Option.bind_some]

/-- A listing is read as the rows on the page, with the number of all rows if it fits. -/
theorem decodeList_listBody {α : Type} (s : Schema α) {toJson : α → Json} (hkey : s.key ≠ "count")
    (hread : ∀ a, s.entity.read (toJson a) = .ok a) (rows : List α) (p : Params) :
    s.decodeList (listBody s toJson rows p) =
      .ok ⟨(rows.drop (offset p)).take (countOf p "pagesize" 20),
        Json.word32? (.ofNat rows.length)⟩ := by
  unfold listBody
  split
  · next hempty =>
    obtain rfl : rows = [] := List.isEmpty_iff.mp hempty
    rw [decodeList_body_nil, List.drop_nil, List.take_nil]
    rfl
  · exact decodeList_body s hkey rows.length (Decode.items_map hread _)

/-- The answer to an addition, which gives the port as a text, is read as the server that is
added. -/
theorem read_added (hostname : String) {port : Int} (hrange : 0 ≤ port ∧ port ≤ 65535) :
    LdapServer.shape.read (.object [("hostname", .str hostname), ("port", .str (toString port))]) =
      .ok ⟨hostname, UInt16.ofNat port.toNat⟩ := by
  obtain ⟨n, rfl⟩ := Int.eq_ofNat_of_zero_le hrange.1
  have htoNat : (UInt16.ofNat n).toNat = n := UInt16.toNat_ofNat_of_lt' (show n < 65536 by omega)
  have hread := LdapServer.read_object (s := ⟨hostname, UInt16.ofNat n⟩)
    (Decode.portNumber_read_text (UInt16.ofNat n))
  rw [htoNat] at hread
  exact hread

end Store

end SettingsConsole
