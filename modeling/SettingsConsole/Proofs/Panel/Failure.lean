import SettingsConsole.Panel.Failure
import SettingsConsole.Proofs.Entity.Reading
import SettingsConsole.Proofs.Json.Order
import SettingsConsole.Proofs.Json.RoundTrip

/-!
# Failures of remote calls, sent and passed on

The JSON form of a failure loses nothing. The failure is read back from its text, in whatever order
the members stand there, and members under other names change nothing. Reading looks up the kind
and the fields of that kind, so it is enough that each of them is found.

A panel passes a failure on as it is, but for a response that lacks its envelope, which is a failure
of the panel with the same fields. Either way it is as much expected as before.
-/

namespace SettingsConsole

namespace Decode

/-- A text or null is read back. -/
theorem nullable_ofText? (o : Option String) : nullable text (.ofText? o) = .ok o := by
  cases o <;> rfl

/-- A natural number within the limit is read back. -/
theorem natural_ofNat {limit n : Nat} (h : n ≤ limit) (expected : String) :
    natural limit expected (.ofNat n) = .ok n := by
  have hrange : (0 : Int) ≤ (n : Int) ∧ (n : Int) ≤ (limit : Int) := by omega
  simp only [Json.ofNat, natural, if_pos hrange, Int.toNat_natCast]

end Decode

namespace RemoteError

open Decode

/-! ## Reading -/

/-- A status is read back. -/
theorem status_ofNat (n : UInt16) : status (.ofNat n.toNat) = .ok n := by
  rw [status, natural_ofNat (Nat.le_of_lt_succ n.toNat_lt)]
  exact congrArg Except.ok UInt16.ofNat_toNat

/-- An error code or null is read back. -/
theorem nullable_errorCode (o : Option UInt32) :
    nullable errorCode (match o with | some n => .ofNat n.toNat | none => .null) = .ok o := by
  cases o with
  | none => rfl
  | some n =>
    have hread : errorCode (.ofNat n.toNat) = .ok n := by
      rw [errorCode, natural_ofNat (Nat.le_of_lt_succ n.toNat_lt)]
      exact congrArg Except.ok UInt32.ofNat_toNat
    change (errorCode (.ofNat n.toNat)).map some = _
    rw [hread]
    rfl

/-- A failure has one of the known kinds. -/
theorem code_mem_codes (e : RemoteError) : e.code ∈ codes := by
  cases e <;> simp [code, codes]

/-- The JSON form of a failure has no member twice. -/
theorem nodup_members (e : RemoteError) : (e.members.map Prod.fst).Nodup := by
  cases e <;> simp [members]

/-- The JSON form of a failure has its members, each under its name. -/
theorem get?_toJson {e : RemoteError} {m : String × Json} (hm : m ∈ e.members) :
    e.toJson.get? m.1 = some m.2 :=
  (Dict.get?_ofList_eq_some_iff_mem e.nodup_members).mpr hm

/-- A failure of a known kind is read from its fields. -/
theorem ofJson_ofDict {d : Dict Json} {code : String} (hcode : d.get? "code" = some (.str code))
    (hknown : code ∈ codes) : ofJson (.ofDict d) = ofMembers code d.toList := by
  have hkind : kind (.str code) = .ok code := if_pos (List.contains_iff_mem.mpr hknown)
  have hmember : member d.toList "code" kind = .ok (some code) := member_of_some hcode hkind
  rw [Json.ofDict, ofJson, hmember]
  rfl

/-- A failure is read from any object in which each of its members is found. -/
theorem ofJson_of_members {e : RemoteError} {d : Dict Json}
    (h : ∀ m ∈ e.members, d.get? m.1 = some m.2) : ofJson (.ofDict d) = .ok e := by
  -- Every failure has a kind and an operation. The other members depend on the kind.
  obtain ⟨hcode, h⟩ := List.forall_mem_cons.mp h
  obtain ⟨hoperation, h⟩ := List.forall_mem_cons.mp h
  have hoperation : member d.toList "operation" text = .ok (some e.operation) :=
    member_of_some hoperation rfl
  rw [ofJson_ofDict hcode e.code_mem_codes]
  cases e with
  | network op detail | timeout op detail | parse op detail | serialization op detail =>
    simp only [List.forall_mem_singleton] at h
    have hdetail : member d.toList "detail" text = .ok (some detail) := member_of_some h rfl
    simp only [code, ofMembers, hoperation, hdetail]
    rfl
  | unauthorized op message =>
    simp only [List.forall_mem_singleton] at h
    have hmessage := member_of_some h (nullable_ofText? message)
    simp only [code, ofMembers, hoperation, hmessage]
    rfl
  | api op s c message =>
    simp only [List.forall_mem_cons] at h
    obtain ⟨hstatus, hcode, hmessage, -⟩ := h
    have hstatus := member_of_some hstatus (status_ofNat s)
    have hcode := member_of_some hcode (nullable_errorCode c)
    have hmessage : member d.toList "raw_message" text = .ok (some message) :=
      member_of_some hmessage rfl
    simp only [code, ofMembers, hoperation, hstatus, hcode, hmessage]
    rfl
  | envelopeMismatch op envelope key =>
    simp only [List.forall_mem_cons] at h
    obtain ⟨henvelope, hkey, -⟩ := h
    have henvelope : member d.toList "envelope" text = .ok (some envelope) :=
      member_of_some henvelope rfl
    have hkey : member d.toList "key" text = .ok (some key) := member_of_some hkey rfl
    simp only [code, ofMembers, hoperation, henvelope, hkey]
    rfl
  | invalidParameter op param detail =>
    simp only [List.forall_mem_cons] at h
    obtain ⟨hparam, hdetail, -⟩ := h
    have hparam : member d.toList "param" text = .ok (some param) := member_of_some hparam rfl
    have hdetail : member d.toList "detail" text = .ok (some detail) := member_of_some hdetail rfl
    simp only [code, ofMembers, hoperation, hparam, hdetail]
    rfl

/-- Further members under other names change nothing, in whatever order all of them stand. -/
theorem ofJson_object_of_perm {e : RemoteError} {more all : List (String × Json)}
    (hmore : ∀ m ∈ more, m.1 ∉ e.members.map Prod.fst) (hall : all.Perm (e.members ++ more)) :
    ofJson (.object all) = .ok e := by
  refine ofJson_of_members fun m hm => ?_
  refine Dict.get?_ofList_of_unique (hall.mem_iff.mpr (List.mem_append_left more hm)) ?_
  intro w hw
  rcases List.mem_append.mp (hall.mem_iff.mp hw) with hmember | hother
  · exact congrArg Prod.snd (List.inj_on_of_nodup_map e.nodup_members hmember hm rfl)
  · exact absurd (List.mem_map_of_mem hm) (hmore (m.1, w) hother)

/-! ## The text of a failure -/

/-- The values of a failure are exact. -/
theorem exact_members (e : RemoteError) (depth : Nat) : ∀ m ∈ e.members, m.2.Exact depth := by
  refine List.forall_mem_cons.mpr ⟨.str _, List.forall_mem_cons.mpr ⟨.str _, ?_⟩⟩
  cases e with
  | network _ detail | timeout _ detail | parse _ detail | serialization _ detail =>
    exact List.forall_mem_singleton.mpr (.str detail)
  | unauthorized _ text =>
    refine List.forall_mem_singleton.mpr ?_
    cases text with
    | none => exact .null
    | some text => exact .str text
  | api _ status code text =>
    have hstatus : status.toNat < 65536 := status.toNat_lt
    refine List.forall_mem_cons.mpr ⟨Json.exact_ofNat (by omega) depth, List.forall_mem_cons.mpr
      ⟨?_, List.forall_mem_singleton.mpr (.str text)⟩⟩
    cases code with
    | none => exact .null
    | some n =>
      have hn : n.toNat < 4294967296 := n.toNat_lt
      exact Json.exact_ofNat (by omega) depth
  | envelopeMismatch _ envelope key =>
    exact List.forall_mem_cons.mpr ⟨.str envelope, List.forall_mem_singleton.mpr (.str key)⟩
  | invalidParameter _ param detail =>
    exact List.forall_mem_cons.mpr ⟨.str param, List.forall_mem_singleton.mpr (.str detail)⟩

/-- The JSON form of a failure is read back from its text. -/
theorem parse?_render_toJson (e : RemoteError) : Json.parse? e.toJson.render = some e.toJson := by
  have hexact : ∀ m ∈ (Dict.ofList e.members).toList, m.2.Exact 126 :=
    fun m hm => e.exact_members 126 m (Dict.mem_of_mem_ofList hm)
  exact Json.Exact.parse?_render (.obj (Dict.ofList e.members).sorted hexact)

/-- The members of a failure may be written in any order. -/
theorem parse?_render_of_perm {e : RemoteError} {written : List (String × Json)}
    (h : written.Perm e.members) : Json.parse? (Json.obj written).render = some e.toJson := by
  have hexact : ∀ m ∈ written, m.2.Exact 126 :=
    fun m hm => e.exact_members 126 m (h.mem_iff.mp hm)
  rw [Json.parse?_render_obj hexact]
  exact congrArg (fun d => some (Json.ofDict d)) (Dict.ofList_of_perm h e.nodup_members)

end RemoteError

/-! ## Panels -/

/-- What a failed remote call is for a panel. -/
inductive RemoteError.Lifted : RemoteError → PanelError → Prop
  | envelope {operation envelope key : String} :
      Lifted (.envelopeMismatch operation envelope key) (.envelopeMismatch operation envelope key)
  | other {e : RemoteError}
      (hother : ∀ operation envelope key, e ≠ .envelopeMismatch operation envelope key) :
      Lifted e (.remote e)

/-- A failure that is due to the user or refused by the server. -/
inductive RemoteError.Expected : RemoteError → Prop
  | unauthorized {operation : String} {text : Option String} :
      Expected (.unauthorized operation text)
  | invalidParameter {operation param detail : String} :
      Expected (.invalidParameter operation param detail)
  | api {operation : String} {status : UInt16} {code : Option UInt32} {text : String}
      (hstatus : status.toNat < 500) : Expected (.api operation status code text)

/-- Every failed remote call is one failure for a panel. -/
theorem PanelError.ofRemote_eq_iff {e : RemoteError} {p : PanelError} :
    ofRemote e = p ↔ e.Lifted p := by
  constructor
  · rintro rfl
    cases e with
    | envelopeMismatch => exact .envelope
    | _ => exact .other nofun
  · intro h
    cases h with
    | envelope => rfl
    | other hother =>
      cases e with
      | envelopeMismatch operation envelope key => exact absurd rfl (hother operation envelope key)
      | _ => rfl

/-- A failed remote call is as much expected of a panel as it is of the server. -/
theorem PanelError.isExpected_ofRemote (e : RemoteError) :
    (ofRemote e).isExpected = e.isExpected := by
  cases e <;> rfl

/-- The failures that count as expected are those due to the user or refused by the server. -/
theorem RemoteError.isExpected_iff (e : RemoteError) : e.isExpected = true ↔ e.Expected := by
  constructor
  · intro h
    cases e with
    | unauthorized => exact .unauthorized
    | invalidParameter => exact .invalidParameter
    | api _ status => exact .api (of_decide_eq_true h)
    | _ => cases h
  · intro h
    cases h with
    | unauthorized => rfl
    | invalidParameter => rfl
    | api hstatus => exact decide_eq_true hstatus

/-- A failure of a remote call is written under its kind. It is read back from its JSON form, from
the text of that with the members in any order, and from any object with further members under other
names. For a panel it is one failure with the same fields, as much expected as before. -/
theorem RemoteError.failures_faithful (e : RemoteError) :
    e.toJson.get? "code" = some (.str e.code) ∧
      Json.parse? e.toJson.render = some e.toJson ∧ ofJson e.toJson = .ok e ∧
      (∀ written, written.Perm e.members →
        Json.parse? (Json.obj written).render = some e.toJson) ∧
      (∀ more all, (∀ m ∈ more, m.1 ∉ e.members.map Prod.fst) → all.Perm (e.members ++ more) →
        ofJson (.object all) = .ok e) ∧
      (∀ p, PanelError.ofRemote e = p ↔ e.Lifted p) ∧
      (PanelError.ofRemote e).isExpected = e.isExpected ∧ (e.isExpected = true ↔ e.Expected) := by
  have hread : ofJson e.toJson = .ok e :=
    ofJson_object_of_perm (List.forall_mem_nil _) (by rw [List.append_nil])
  exact ⟨get?_toJson List.mem_cons_self, e.parse?_render_toJson, hread,
    fun _ => parse?_render_of_perm, fun _ _ => ofJson_object_of_perm,
    fun _ => PanelError.ofRemote_eq_iff, PanelError.isExpected_ofRemote e, e.isExpected_iff⟩

/-- A refused update is read back although a request number stands before its members. -/
theorem RemoteError.failures_faithful_numbered :
    "requestid" ∉ (api "updateConfiguration" 431 none "Invalid value").members.map Prod.fst ∧
      ofJson (.object (("requestid", .int 7) ::
        (api "updateConfiguration" 431 none "Invalid value").members)) =
          .ok (api "updateConfiguration" 431 none "Invalid value") := by
  have hother :
      "requestid" ∉ (api "updateConfiguration" 431 none "Invalid value").members.map Prod.fst := by
    simp [members]
  obtain ⟨-, -, -, -, hmore, -⟩ :=
    failures_faithful (api "updateConfiguration" 431 none "Invalid value")
  exact ⟨hother, hmore [("requestid", .int 7)] _ (List.forall_mem_singleton.mpr hother)
    (List.perm_append_singleton _ _).symm⟩

end SettingsConsole
