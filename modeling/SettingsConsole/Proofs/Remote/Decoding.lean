import SettingsConsole.Proofs.Traversal
import SettingsConsole.Remote.Envelope

/-!
# What the decoders give

Every document is decoded in one of a few ways. Without the envelope, or without the key in it, it
is a mismatch; only a list without its key may be empty, if there is nothing but a count of zero.
With the key it is the page or the entity that is read from the value, or the first fault in it, and
nothing else in the document matters but the count of a list.
-/

namespace SettingsConsole

/-! ## The envelope -/

/-- The document is an object with an object under the envelope of the operation, which has the
members `ms`. -/
def Inside (op : Operation) (v : Json) (ms : List (String × Json)) : Prop :=
  ∃ outer, v = .obj outer ∧ outer.lookup op.envelope = some (.obj ms)

/-- The members inside the envelope are found. -/
theorem envelope_of_inside {op : Operation} {v : Json} {ms : List (String × Json)}
    (h : Inside op v ms) : envelope op v = .ok ms := by
  obtain ⟨outer, rfl, hlookup⟩ := h
  simp only [envelope, Json.get?, hlookup, Option.bind_some, Json.members?]

/-- A document without the envelope is a mismatch. -/
theorem envelope_of_not_inside {op : Operation} {v : Json} (h : ∀ ms, ¬ Inside op v ms) :
    envelope op v = .error (.envelopeMismatch op.name op.envelope op.envelope) := by
  have hnone : (v.get? op.envelope).bind Json.members? = none := by
    cases hmembers : (v.get? op.envelope).bind Json.members? with
    | none => rfl
    | some ms =>
      obtain ⟨x, hget, hx⟩ := Option.bind_eq_some_iff.mp hmembers
      cases x <;> cases hx
      cases v <;> first | exact absurd ⟨_, rfl, hget⟩ (h ms) | cases hget
  rw [envelope, hnone]

/-- The count is `n` exactly if a member gives this whole number. -/
def Counted (ms : List (String × Json)) (count : Option UInt32) : Prop :=
  ∀ n : UInt32, count = some n ↔ ms.lookup "count" = some (.int n.toNat)

/-- A whole number of 32 bits without a sign is given by one value only. -/
theorem Json.word32?_eq_some_iff {v : Json} {n : UInt32} :
    v.word32? = some n ↔ v = .int n.toNat := by
  have hlt : n.toNat < 4294967296 := n.toNat_lt
  constructor
  · intro h
    cases v <;> try cases h
    next k =>
      simp only [word32?] at h
      split at h
      · next hrange =>
        obtain ⟨k, rfl⟩ := Int.eq_ofNat_of_zero_le hrange.1
        have hk : (UInt32.ofNat k).toNat = k :=
          UInt32.toNat_ofNat_of_lt' (show k < 4294967296 by omega)
        cases h
        rw [Int.toNat_natCast, hk]
      · cases h
  · rintro rfl
    have hrange : (0 : Int) ≤ (n.toNat : Int) ∧ (n.toNat : Int) ≤ 4294967295 := by omega
    rw [word32?, if_pos hrange, Int.toNat_natCast, UInt32.ofNat_toNat]

/-- The count that is read is the one that the members give. -/
theorem counted (ms : List (String × Json)) :
    Counted ms ((ms.lookup "count").bind Json.word32?) := by
  intro n
  simp only [Option.bind_eq_some_iff, Json.word32?_eq_some_iff, exists_eq_right]

/-- The members give one count only. -/
theorem Counted.unique {ms : List (String × Json)} {count count' : Option UInt32}
    (h : Counted ms count) (h' : Counted ms count') : count = count' :=
  Option.ext fun n => (h n).trans (h' n).symm

/-- There is nothing inside the envelope but a count of zero at most. -/
def Vacant (ms : List (String × Json)) : Prop := ms = [] ∨ ms = [("count", .int 0)]

/-- The test for an empty list asks whether the envelope is vacant. -/
theorem vacant_iff (ms : List (String × Json)) :
    (ms.isEmpty ∨ (ms.length = 1 ∧ (ms.lookup "count").bind Json.word32? = some 0)) ↔
      Vacant ms := by
  rw [counted ms 0, Vacant, List.isEmpty_iff]
  refine or_congr_right ⟨fun ⟨hlength, hcount⟩ => ?_, ?_⟩
  · obtain ⟨⟨key, v⟩, rfl⟩ := List.length_eq_one_iff.mp hlength
    by_cases hkey : "count" = key
    · subst hkey
      simpa using hcount
    · simp [List.lookup_cons, beq_eq_false_iff_ne.mpr hkey] at hcount
  · rintro rfl
    exact ⟨rfl, by simp⟩

/-! ## The ways to decode a document -/

namespace Schema

variable {α : Type}

/-- How a document is decoded as one page of a list. -/
inductive ListAnswer (s : Schema α) (v : Json) : Except RemoteError (ListPage α) → Prop where
  /-- There is no envelope. -/
  | noEnvelope (hinside : ∀ ms, ¬ Inside s.operation v ms) :
      ListAnswer s v (.error
        (.envelopeMismatch s.operation.name s.operation.envelope s.operation.envelope))
  /-- The list is empty, and the server left it out. -/
  | vacant {ms : List (String × Json)} (hinside : Inside s.operation v ms)
      (hkey : ms.lookup s.key = none) (hvacant : Vacant ms) : ListAnswer s v (.ok ⟨[], some 0⟩)
  /-- There is something else than the list. -/
  | noKey {ms : List (String × Json)} (hinside : Inside s.operation v ms)
      (hkey : ms.lookup s.key = none) (hvacant : ¬ Vacant ms) :
      ListAnswer s v (.error
        (.envelopeMismatch s.operation.name s.operation.envelope s.key))
  /-- Every item reads. -/
  | page {ms : List (String × Json)} {vs : List Json} {as : List α} {count : Option UInt32}
      (hinside : Inside s.operation v ms) (hkey : ms.lookup s.key = some (.arr vs))
      (hread : List.Forall₂ (fun v a => s.entity.read v = .ok a) vs as)
      (hcount : Counted ms count) : ListAnswer s v (.ok ⟨as, count⟩)
  /-- What should be a list is none. -/
  | noArray {ms : List (String × Json)} {x : Json} (hinside : Inside s.operation v ms)
      (hkey : ms.lookup s.key = some x) (hx : ∀ vs, x ≠ .arr vs) :
      ListAnswer s v (.error
        (.parse s.operation.name (Decode.Fault.shape x "a sequence").message))
  /-- One item is the first that does not read. -/
  | badItem {ms : List (String × Json)} {before after : List Json} {x : Json} {as : List α}
      {f : Decode.Fault} (hinside : Inside s.operation v ms)
      (hkey : ms.lookup s.key = some (.arr (before ++ x :: after)))
      (hbefore : List.Forall₂ (fun v a => s.entity.read v = .ok a) before as)
      (hx : s.entity.read x = .error f) :
      ListAnswer s v (.error (.parse s.operation.name f.message))

/-- How a document is decoded as a single entity. -/
inductive SingleAnswer (s : Schema α) (v : Json) : Except RemoteError α → Prop where
  /-- There is no envelope. -/
  | noEnvelope (hinside : ∀ ms, ¬ Inside s.operation v ms) :
      SingleAnswer s v (.error
        (.envelopeMismatch s.operation.name s.operation.envelope s.operation.envelope))
  /-- There is no entity in the envelope. -/
  | noKey {ms : List (String × Json)} (hinside : Inside s.operation v ms)
      (hkey : ms.lookup s.key = none) :
      SingleAnswer s v (.error
        (.envelopeMismatch s.operation.name s.operation.envelope s.key))
  /-- The entity reads. -/
  | entity {ms : List (String × Json)} {x : Json} {a : α} (hinside : Inside s.operation v ms)
      (hkey : ms.lookup s.key = some x) (hread : s.entity.read x = .ok a) :
      SingleAnswer s v (.ok a)
  /-- The entity does not read. -/
  | badEntity {ms : List (String × Json)} {x : Json} {f : Decode.Fault}
      (hinside : Inside s.operation v ms) (hkey : ms.lookup s.key = some x)
      (hread : s.entity.read x = .error f) :
      SingleAnswer s v (.error (.parse s.operation.name f.message))

variable (s : Schema α) {v : Json} {ms : List (String × Json)}

/-- A list that is left out of a vacant envelope is empty. -/
theorem decodeList_of_vacant (hinside : Inside s.operation v ms) (hkey : ms.lookup s.key = none)
    (hvacant : Vacant ms) : s.decodeList v = .ok .empty := by
  rw [decodeList, envelope_of_inside hinside]
  simp only [bind, Except.bind, hkey]
  exact if_pos ((vacant_iff ms).mpr hvacant)

/-- A list that is left out of any other envelope is a mismatch. -/
theorem decodeList_of_not_vacant (hinside : Inside s.operation v ms)
    (hkey : ms.lookup s.key = none) (hvacant : ¬ Vacant ms) :
    s.decodeList v = .error s.mismatch := by
  rw [decodeList, envelope_of_inside hinside]
  simp only [bind, Except.bind, hkey]
  exact if_neg fun h => hvacant ((vacant_iff ms).mp h)

/-- A list under its key is read, and the count beside it. -/
theorem decodeList_of_lookup_some {x : Json} (hinside : Inside s.operation v ms)
    (hkey : ms.lookup s.key = some x) :
    s.decodeList v =
      match Decode.items s.entity.read x with
      | .ok as => .ok ⟨as, (ms.lookup "count").bind Json.word32?⟩
      | .error f => .error (s.unreadable f) := by
  rw [decodeList, envelope_of_inside hinside]
  simp only [bind, Except.bind, hkey]
  cases Decode.items s.entity.read x <;> rfl

/-- A single entity is read if it is there. -/
theorem decodeSingle_of_inside (hinside : Inside s.operation v ms) :
    s.decodeSingle v =
      match ms.lookup s.key with
      | none => .error s.mismatch
      | some x => (s.entity.read x).mapError s.unreadable := by
  rw [decodeSingle, envelope_of_inside hinside]
  simp only [bind, Except.bind]
  cases ms.lookup s.key with
  | none => rfl
  | some x =>
    simp only
    cases s.entity.read x <;> rfl

/-- A list is decoded in none but the given ways. -/
theorem decodeList_of_listAnswer {r : Except RemoteError (ListPage α)} (h : s.ListAnswer v r) :
    s.decodeList v = r := by
  cases h with
  | noEnvelope hinside => rw [decodeList, envelope_of_not_inside hinside]; rfl
  | vacant hinside hkey hvacant => exact s.decodeList_of_vacant hinside hkey hvacant
  | noKey hinside hkey hvacant => exact s.decodeList_of_not_vacant hinside hkey hvacant
  | page hinside hkey hread hcount =>
    rw [s.decodeList_of_lookup_some hinside hkey, Decode.items, Traversal.mapM_of_forall₂ hread,
      (counted _).unique hcount]
  | @noArray _ x hinside hkey hx =>
    rw [s.decodeList_of_lookup_some hinside hkey]
    cases x <;> first | exact absurd rfl (hx _) | rfl
  | badItem hinside hkey hbefore hx =>
    rw [s.decodeList_of_lookup_some hinside hkey, Decode.items,
      Traversal.mapM_of_first_fault hbefore hx]
    rfl

/-- A list is decoded in one of the given ways. -/
theorem listAnswer_decodeList (v : Json) : s.ListAnswer v (s.decodeList v) := by
  have hanswer : ∃ r, s.ListAnswer v r := by
    by_cases henvelope : ∃ ms, Inside s.operation v ms
    · obtain ⟨ms, hinside⟩ := henvelope
      cases hkey : ms.lookup s.key with
      | none =>
        by_cases hvacant : Vacant ms
        · exact ⟨_, .vacant hinside hkey hvacant⟩
        · exact ⟨_, .noKey hinside hkey hvacant⟩
      | some x =>
        by_cases hx : ∃ vs, x = .arr vs
        · obtain ⟨vs, rfl⟩ := hx
          rcases Traversal.forall₂_or_first_fault s.entity.read vs with
            ⟨as, hread⟩ | ⟨before, y, after, as, f, rfl, hbefore, hy⟩
          · exact ⟨_, .page hinside hkey hread (counted ms)⟩
          · exact ⟨_, .badItem hinside hkey hbefore hy⟩
        · exact ⟨_, .noArray hinside hkey fun vs h => hx ⟨vs, h⟩⟩
    · exact ⟨_, .noEnvelope fun ms h => henvelope ⟨ms, h⟩⟩
  obtain ⟨r, hr⟩ := hanswer
  rwa [s.decodeList_of_listAnswer hr]

/-- A single entity is decoded in none but the given ways. -/
theorem decodeSingle_of_singleAnswer {r : Except RemoteError α} (h : s.SingleAnswer v r) :
    s.decodeSingle v = r := by
  cases h with
  | noEnvelope hinside => rw [decodeSingle, envelope_of_not_inside hinside]; rfl
  | noKey hinside hkey => rw [s.decodeSingle_of_inside hinside, hkey]; rfl
  | entity hinside hkey hread => simp only [s.decodeSingle_of_inside hinside, hkey, hread]; rfl
  | badEntity hinside hkey hread => simp only [s.decodeSingle_of_inside hinside, hkey, hread]; rfl

/-- A single entity is decoded in one of the given ways. -/
theorem singleAnswer_decodeSingle (v : Json) : s.SingleAnswer v (s.decodeSingle v) := by
  have hanswer : ∃ r, s.SingleAnswer v r := by
    by_cases henvelope : ∃ ms, Inside s.operation v ms
    · obtain ⟨ms, hinside⟩ := henvelope
      cases hkey : ms.lookup s.key with
      | none => exact ⟨_, .noKey hinside hkey⟩
      | some x =>
        cases hread : s.entity.read x with
        | ok a => exact ⟨_, .entity hinside hkey hread⟩
        | error f => exact ⟨_, .badEntity hinside hkey hread⟩
    · exact ⟨_, .noEnvelope fun ms h => henvelope ⟨ms, h⟩⟩
  obtain ⟨r, hr⟩ := hanswer
  rwa [s.decodeSingle_of_singleAnswer hr]

end Schema

/-! ## Foreign members -/

/-- Two lists of members have the same values for the names. -/
def SameOn (names : List String) (ms ms' : List (String × Json)) : Prop :=
  ∀ name ∈ names, ms.lookup name = ms'.lookup name

/-- Two values of an entity differ in members of other names only. -/
inductive Alike (names : List String) : Json → Json → Prop where
  | refl (v : Json) : Alike names v v
  | object {ms ms' : List (String × Json)} (h : SameOn names ms ms') :
      Alike names (.obj ms) (.obj ms')

/-- Two values of a list differ in members of other names of its items only. -/
inductive AlikeItems (names : List String) : Json → Json → Prop where
  | refl (v : Json) : AlikeItems names v v
  | array {vs vs' : List Json} (h : List.Forall₂ (Alike names) vs vs') :
      AlikeItems names (.arr vs) (.arr vs')

/-- The names of the fields of a setting. -/
def Setting.fields : List String :=
  ["name", "category", "value", "description", "scope", "isdynamic"]

/-- The names of the fields of an LDAP server. -/
def LdapServer.fields : List String := ["hostname", "port"]

/-- The names of the fields of a capability entry. -/
def HypervisorCapability.fields : List String :=
  ["id", "hypervisor", "hypervisorversion", "maxguestslimit", "maxdatavolumeslimit",
    "maxhostspercluster", "securitygroupenabled", "storagemotionenabled"]

namespace Decode

variable {α : Type}

/-- A record is read from the members of these names only. -/
def Shape.ReadsOnly (shape : Shape α) (names : List String) : Prop :=
  ∀ ms ms', SameOn names ms ms' → shape.ofMembers ms = shape.ofMembers ms'

/-- A member is read alike from lists with the same value for its name. -/
theorem member_congr {names : List String} {ms ms' : List (String × Json)}
    (h : SameOn names ms ms') {key : String} (hkey : key ∈ names) (read : Json → Except Fault α) :
    member ms key read = member ms' key read := by
  rw [member, member, h key hkey]

end Decode

open Decode

/-- A setting is read from its fields only. -/
theorem Setting.readsOnly_fields : shape.ReadsOnly fields := by
  intro ms ms' h
  simp (disch := decide) only [shape, member_congr h]

/-- An LDAP server is read from its fields only. -/
theorem LdapServer.readsOnly_fields : shape.ReadsOnly fields := by
  intro ms ms' h
  simp (disch := decide) only [shape, member_congr h]

/-- A capability entry is read from its fields only. -/
theorem HypervisorCapability.readsOnly_fields : shape.ReadsOnly fields := by
  intro ms ms' h
  simp (disch := decide) only [shape, member_congr h]

namespace Decode

variable {α : Type} {shape : Shape α} {names : List String}

/-- Values that differ in foreign members read alike. -/
theorem Shape.ReadsOnly.read_eq (honly : shape.ReadsOnly names) {v v' : Json}
    (h : Alike names v v') : shape.read v = shape.read v' := by
  cases h with
  | refl => rfl
  | object hsame => exact honly _ _ hsame

/-- Lists whose items differ in foreign members read alike. -/
theorem Shape.ReadsOnly.items_eq (honly : shape.ReadsOnly names) {v v' : Json}
    (h : AlikeItems names v v') : items shape.read v = items shape.read v' := by
  cases h with
  | refl => rfl
  | array halike =>
    simp only [items]
    induction halike with
    | nil => rfl
    | cons hv _ ih => rw [List.mapM_cons, List.mapM_cons, honly.read_eq hv, ih]

end Decode

namespace Schema

variable {α : Type}

/-- The answers of the server, with the names of the fields of their entities. -/
inductive Known : {α : Type} → Schema α → List String → Prop where
  | listSettings : Known listSettings Setting.fields
  | updateSetting : Known updateSetting Setting.fields
  | listLdapServers : Known listLdapServers LdapServer.fields
  | addLdapServer : Known addLdapServer LdapServer.fields
  | listHypervisors : Known listHypervisors HypervisorCapability.fields
  | updateHypervisor : Known updateHypervisor HypervisorCapability.fields

/-- The entities of every answer are read from their fields only. -/
theorem Known.readsOnly {s : Schema α} {names : List String} (h : s.Known names) :
    s.entity.ReadsOnly names := by
  cases h with
  | listSettings | updateSetting => exact Setting.readsOnly_fields
  | listLdapServers | addLdapServer => exact LdapServer.readsOnly_fields
  | listHypervisors | updateHypervisor => exact HypervisorCapability.readsOnly_fields

/-- Two documents have the key of the answer inside its envelope, with values that are `alike`, and
the same values for the names in `kept` beside it. -/
def Agree (s : Schema α) (kept : List String) (alike : Json → Json → Prop) (v v' : Json) : Prop :=
  ∃ ms ms' x x', Inside s.operation v ms ∧ Inside s.operation v' ms' ∧
    ms.lookup s.key = some x ∧ ms'.lookup s.key = some x' ∧ alike x x' ∧ SameOn kept ms ms'

variable {s : Schema α} {names : List String}

/-- Nothing but the fields of its items and the count decides what a list is decoded to. -/
theorem Known.decodeList_eq (h : s.Known names) {v v' : Json}
    (hagree : s.Agree ["count"] (AlikeItems names) v v') : s.decodeList v = s.decodeList v' := by
  obtain ⟨ms, ms', x, x', hinside, hinside', hx, hx', halike, hcount⟩ := hagree
  rw [s.decodeList_of_lookup_some hinside hx, s.decodeList_of_lookup_some hinside' hx',
    h.readsOnly.items_eq halike, hcount "count" List.mem_cons_self]

/-- Nothing but its fields decides what an entity is decoded to. -/
theorem Known.decodeSingle_eq (h : s.Known names) {v v' : Json}
    (hagree : s.Agree [] (Alike names) v v') : s.decodeSingle v = s.decodeSingle v' := by
  obtain ⟨ms, ms', x, x', hinside, hinside', hx, hx', halike, -⟩ := hagree
  rw [s.decodeSingle_of_inside hinside, s.decodeSingle_of_inside hinside', hx, hx']
  simp only [h.readsOnly.read_eq halike]

/-- A failure to decode a list names the operation. -/
theorem operation_of_listAnswer {v : Json} {e : RemoteError} (h : s.ListAnswer v (.error e)) :
    e.operation = s.operation.name := by
  cases h <;> rfl

/-- A failure to decode an entity names the operation. -/
theorem operation_of_singleAnswer {v : Json} {e : RemoteError} (h : s.SingleAnswer v (.error e)) :
    e.operation = s.operation.name := by
  cases h <;> rfl

/-- A document is decoded in exactly one of the given ways, as a list and as a single entity. Every
failure names the operation. For the answers of the server, the members inside the envelope other
than the key and the count of a list are of no account, and neither are foreign members of the
entities. -/
theorem decodes_exactly (s : Schema α) (v : Json) :
    (∀ r, s.decodeList v = r ↔ s.ListAnswer v r) ∧
      (∀ r, s.decodeSingle v = r ↔ s.SingleAnswer v r) ∧
      (∀ e, s.decodeList v = .error e ∨ s.decodeSingle v = .error e →
        e.operation = s.operation.name) ∧
      ∀ names, s.Known names → ∀ v',
        (s.Agree ["count"] (AlikeItems names) v v' → s.decodeList v = s.decodeList v') ∧
          (s.Agree [] (Alike names) v v' → s.decodeSingle v = s.decodeSingle v') := by
  have hlist := s.listAnswer_decodeList v
  have hsingle := s.singleAnswer_decodeSingle v
  refine ⟨fun r => ⟨?_, s.decodeList_of_listAnswer⟩, fun r => ⟨?_, s.decodeSingle_of_singleAnswer⟩,
    ?_, fun names hknown v' => ⟨hknown.decodeList_eq, hknown.decodeSingle_eq⟩⟩
  · rintro rfl
    exact hlist
  · rintro rfl
    exact hsingle
  · rintro e (he | he)
    · rw [he] at hlist
      exact operation_of_listAnswer hlist
    · rw [he] at hsingle
      exact operation_of_singleAnswer hsingle

end Schema

end SettingsConsole
