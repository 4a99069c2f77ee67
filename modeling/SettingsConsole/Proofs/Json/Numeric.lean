import SettingsConsole.Entity.HypervisorCapability
import SettingsConsole.Entity.LdapServer
import SettingsConsole.Proofs.Text.NumeralValue

/-!
# Numbers that are given as numbers or as texts

A number of a record may be given as a JSON number or as a text. The two are read by different
means, and nevertheless alike: an integer and its decimal text, with any white space around it, are
both read as that integer or both refused, and which of it depends on the range of the type alone.
Where a number is optional, null, a blank text and a missing field are none.
-/

namespace SettingsConsole.Decode

open Text

variable {α β : Type}

/-! ## What is read -/

/-- A JSON value gives an integer: as a whole number, or as a text that is a numeral of it once the
white space around is dropped. -/
inductive Gives (minus : Bool) : Json → Int → Prop
  | number (n : Int) : Gives minus (.int n) n
  | text {s : String} {n : Int} (hwrites : Numeral.Writes minus (trim s).toList n) :
      Gives minus (.str s) n

/-- A type whose values are the integers from `low` to `high` is read exactly. A minus sign may
stand in front of a numeral if `minus` says so. -/
structure Numeric.Exact (t : Numeric α) (toInt : α → Int) (minus : Bool) (low high : Int) :
    Prop where
  /-- The values of the type are the integers of the range. -/
  range : ∀ n, (∃ a, toInt a = n) ↔ low ≤ n ∧ n ≤ high
  /-- What gives an integer of the range is read as that integer, and all else is refused. -/
  read : ∀ v a, t.read v = .ok a ↔ Gives minus v (toInt a)
  /-- An integer and its decimal text are both read as the integer, or both refused. -/
  alike : ∀ n (before after : List Char), (∀ c ∈ before, isWhite c = true) →
    (∀ c ∈ after, isWhite c = true) →
    let written := Json.str (String.ofList before ++ toString n ++ String.ofList after)
    (∃ a, toInt a = n ∧ t.read (.int n) = .ok a ∧ t.read written = .ok a) ∨
      (¬ (low ≤ n ∧ n ≤ high) ∧ (∃ e, t.read (.int n) = .error e) ∧ ∃ e, t.read written = .error e)
  /-- Null is none where the number is optional. -/
  null : t.readOption .null = .ok none
  /-- So is a blank text. -/
  blank : ∀ s, trim s = "" → t.readOption (.str s) = .ok none
  /-- All else is read as where the number is needed. -/
  given : ∀ v, v ≠ .null → (∀ s, v = .str s → trim s ≠ "") →
    t.readOption v = (t.read v).map some

/-- What is not read is refused. -/
theorem exists_error {ε : Type} {x : Except ε α} (h : ∀ a, x ≠ .ok a) : ∃ e, x = .error e := by
  cases x with
  | error e => exact ⟨e, rfl⟩
  | ok a => exact absurd rfl (h a)

/-- A type is read exactly if its integers and its numerals are. -/
theorem Numeric.Exact.of_parts {t : Numeric α} {toInt : α → Int} {minus : Bool} {low high : Int}
    (hrange : ∀ n, (∃ a, toInt a = n) ↔ low ≤ n ∧ n ≤ high)
    (hwide : minInt64 ≤ low ∧ high ≤ maxInt64) (hminus : minus = true ∨ 0 ≤ low)
    (hint : ∀ n a, minInt64 ≤ n ∧ n ≤ maxInt64 → (t.ofInt? n = some a ↔ n = toInt a))
    (htext : ∀ s a, t.ofText? s = some a ↔ Numeral.Writes minus s.toList (toInt a)) :
    t.Exact toInt minus low high := by
  have hread_int (n : Int) (a : α) : t.read (.int n) = .ok a ↔ n = toInt a := by
    rw [Numeric.read]
    by_cases hn : minInt64 ≤ n ∧ n ≤ maxInt64
    · rw [if_pos hn, ← hint n a hn]
      cases t.ofInt? n <;> simp
    · rw [if_neg hn]
      constructor
      · nofun
      · rintro rfl
        obtain ⟨hlow, hhigh⟩ := (hrange (toInt a)).mp ⟨a, rfl⟩
        exact absurd ⟨Int.le_trans hwide.1 hlow, Int.le_trans hhigh hwide.2⟩ hn
  have hread_text (s : String) (a : α) :
      t.read (.str s) = .ok a ↔ Numeral.Writes minus (trim s).toList (toInt a) := by
    rw [← htext, Numeric.read]
    cases t.ofText? (trim s) <;> simp
  refine ⟨hrange, fun v a => ?_, fun n before after hbefore hafter => ?_, rfl, fun s hs => ?_,
    fun v hnull hblank => ?_⟩
  · constructor
    · intro h
      cases v with
      | int n =>
        rw [(hread_int n a).mp h]
        exact .number _
      | str s => exact .text ((hread_text s a).mp h)
      | _ => cases h
    · intro h
      generalize hn : toInt a = n at h
      cases h with
      | number n => exact (hread_int n a).mpr hn.symm
      | text hwrites => exact (hread_text _ a).mpr (hn ▸ hwrites)
  · intro written
    have htrim : trim (String.ofList before ++ toString n ++ String.ofList after) = toString n := by
      rw [trim_surrounded hbefore hafter]
      exact trim_eq_self fun c hc => Numeral.isWhite_of_mem_toString hc
    have hwritten (a : α) : t.read written = .ok a ↔ toInt a = n ∧ (minus = true ∨ 0 ≤ n) := by
      rw [hread_text, htrim, Numeral.writes_toString_iff]
    by_cases hn : low ≤ n ∧ n ≤ high
    · obtain ⟨a, rfl⟩ := (hrange n).mpr hn
      have hsign : minus = true ∨ 0 ≤ toInt a := hminus.imp_right fun h => Int.le_trans h hn.1
      exact .inl ⟨a, rfl, (hread_int _ a).mpr rfl, (hwritten a).mpr ⟨rfl, hsign⟩⟩
    · -- No value of the type is this integer, so neither form of it can be read.
      have hnone (a : α) : toInt a ≠ n := fun h => hn ((hrange n).mp ⟨a, h⟩)
      exact .inr ⟨hn, exists_error fun a h => hnone a ((hread_int n a).mp h).symm,
        exists_error fun a h => hnone a ((hwritten a).mp h).1⟩
  · rw [Numeric.readOption, if_pos ((trim_eq_empty_iff s).mp hs)]
  · cases v with
    | null => exact absurd rfl hnull
    | str s =>
      rw [Numeric.readOption, isBlank_eq_false (hblank s rfl)]
      rfl
    | _ => rfl

/-- Ports are read exactly. -/
theorem portNumber_exact : portNumber.Exact (fun a => (a.toNat : Int)) false 0 65535 := by
  refine .of_parts (fun _ => Numeral.exists_word16_iff) (by decide) (.inr (Int.le_refl 0))
    (fun n a _ => ?_) fun s a => ?_
  · have hlt : a.toNat < 65536 := a.toNat_lt
    simp only [portNumber, Option.ite_none_right_eq_some, Option.some.injEq]
    constructor
    · rintro ⟨⟨hlow, hhigh⟩, rfl⟩
      rw [UInt16.toNat_ofNat_of_lt' (by change n.toNat < 65536; omega), Int.toNat_of_nonneg hlow]
    · rintro rfl
      exact ⟨by omega, UInt16.ofNat_toNat⟩
  · exact Numeral.toOption_eq_some_iff.trans Numeral.word16_eq_ok_iff

/-- Limits are read exactly. -/
theorem limitNumber_exact : limitNumber.Exact Int64.toInt true minInt64 maxInt64 := by
  refine .of_parts (fun _ => Numeral.exists_int64_iff) (by decide) (.inl rfl)
    (fun n a hn => ?_) fun s a => ?_
  · simp only [limitNumber, Option.some.injEq]
    constructor
    · rintro rfl
      exact (Int64.toInt_ofInt_of_le hn.1 (Int.lt_add_one_of_le hn.2)).symm
    · rintro rfl
      exact Int64.ofInt_toInt a
  · exact Numeral.toOption_eq_some_iff.trans Numeral.int64_eq_ok_iff

/-! ## Numbers in records -/

/-- What is given for a field of a record: a member of an object, or an item of an array. -/
def fieldOf (key : String) (position : Nat) : Json → Option Json
  | .obj members => members.lookup key
  | .arr vs => vs[position]?
  | _ => none

/-- Read an optional number of a record, where nothing may be given for it. -/
def Numeric.readField (t : Numeric α) : Option Json → Except Fault (Option α)
  | some v => t.readOption v
  | none => .ok none

/-- A step that succeeds gives a value, and the rest succeeds with it. -/
theorem bind_eq_ok_iff {x : Except Fault α} {f : α → Except Fault β} {b : β} :
    (x >>= f) = .ok b ↔ ∃ a, x = .ok a ∧ f a = .ok b := by
  cases x with
  | error e => exact ⟨nofun, fun ⟨_, h, _⟩ => nomatch h⟩
  | ok a => exact ⟨fun h => ⟨a, rfl, h⟩, fun ⟨_, h, hf⟩ => Except.ok.inj h ▸ hf⟩

/-- A member that is read is not there, or it is there and its value is read. -/
theorem cases_of_member {members : List (String × Json)} {key : String}
    {read : Json → Except Fault α} {o : Option α} (h : member members key read = .ok o) :
    (members.lookup key = none ∧ o = none) ∨
      ∃ v a, members.lookup key = some v ∧ read v = .ok a ∧ o = some a := by
  unfold member at h
  cases hv : members.lookup key with
  | none =>
    rw [hv] at h
    cases h
    exact .inl ⟨rfl, rfl⟩
  | some v =>
    rw [hv] at h
    cases hread : read v with
    | error e =>
      simp only [hread] at h
      cases h
    | ok a =>
      simp only [hread] at h
      cases h
      exact .inr ⟨v, a, rfl, hread, rfl⟩

/-- An optional member that is read is what is given for its field, or none. -/
theorem readField_of_member {t : Numeric α} {members : List (String × Json)} {key : String}
    {o : Option (Option α)} (h : member members key t.readOption = .ok o) :
    t.readField (members.lookup key) = .ok o.join := by
  rcases cases_of_member h with ⟨hv, rfl⟩ | ⟨v, a, hv, hread, rfl⟩
  · rw [hv]
    rfl
  · rw [hv]
    exact hread

/-- The item at the position of an optional number is what is given for its field, or none. -/
theorem readField_of_itemOr {t : Numeric α} {vs : List Json} {position : Nat} {o : Option α}
    (h : itemOr vs position none t.readOption = .ok o) : t.readField vs[position]? = .ok o := by
  unfold itemOr at h
  cases hv : vs[position]? with
  | none => rwa [hv] at h
  | some v => rwa [hv] at h

end Decode

open Decode

/-- Where a limit of capability entries stands. -/
structure LimitField where
  key : String
  /-- The position in an array. -/
  position : Nat
  value : HypervisorCapability → Option Int64

/-- The limits of capability entries. -/
def LimitField.all : List LimitField :=
  [⟨"maxguestslimit", 3, (·.maxGuests)⟩, ⟨"maxdatavolumeslimit", 4, (·.maxDataVolumes)⟩,
    ⟨"maxhostspercluster", 5, (·.maxHostsPerCluster)⟩]

/-- Every limit of a capability entry is read from what is given for it. -/
theorem HypervisorCapability.readField_limits {v : Json} {c : HypervisorCapability}
    (h : shape.read v = .ok c) :
    ∀ l ∈ LimitField.all, limitNumber.readField (fieldOf l.key l.position v) = .ok (l.value c) := by
  cases v with
  | obj members =>
    change shape.ofMembers members = .ok c at h
    simp only [shape, bind_eq_ok_iff] at h
    obtain ⟨_, -, _, -, _, -, volumes, hvolumes, guests, hguests, hosts, hhosts, _, -, _, -, _, -,
      _, -, h⟩ := h
    cases h
    simp only [LimitField.all, List.forall_mem_cons]
    exact ⟨readField_of_member hguests, readField_of_member hvolumes, readField_of_member hhosts,
      List.forall_mem_nil _⟩
  | arr vs =>
    simp only [Shape.read, shape, bind_eq_ok_iff] at h
    obtain ⟨_, ⟨_, -, _, -, _, -, guests, hguests, volumes, hvolumes, hosts, hhosts, _, -, _, -,
      hc⟩, _, -, h⟩ := h
    cases hc
    cases h
    simp only [LimitField.all, List.forall_mem_cons]
    exact ⟨readField_of_itemOr hguests, readField_of_itemOr hvolumes, readField_of_itemOr hhosts,
      List.forall_mem_nil _⟩
  | _ => cases h

/-- The port of an LDAP server is read from what is given for it. -/
theorem LdapServer.read_port {v : Json} {s : LdapServer} (h : shape.read v = .ok s) :
    ∃ w, fieldOf "port" 1 v = some w ∧ portNumber.read w = .ok s.port := by
  cases v with
  | obj members =>
    change shape.ofMembers members = .ok s at h
    simp only [shape, bind_eq_ok_iff] at h
    obtain ⟨_, -, given, hgiven, _, -, port, hport, h⟩ := h
    cases h
    rcases cases_of_member hgiven with ⟨-, rfl⟩ | ⟨w, a, hw, hread, rfl⟩
    · cases hport
    · cases hport
      exact ⟨w, hw, hread⟩
  | arr vs =>
    simp only [Shape.read, shape, bind_eq_ok_iff] at h
    obtain ⟨_, ⟨_, -, port, hport, hs⟩, _, -, h⟩ := h
    cases hs
    cases h
    unfold item at hport
    cases hw : vs[1]? with
    | none =>
      rw [hw] at hport
      cases hport
    | some w =>
      rw [hw] at hport
      exact ⟨w, hw, hport⟩
  | _ => cases h

/-- Ports and limits are read exactly, whether they are given as numbers or as texts. So is the port
of an LDAP server, and so are the limits of a capability entry, where a missing one is none. -/
theorem numbers_read_alike :
    portNumber.Exact (fun n => (n.toNat : Int)) false 0 65535 ∧
      limitNumber.Exact Int64.toInt true minInt64 maxInt64 ∧
      (∀ v s, LdapServer.shape.read v = .ok s →
        ∃ w, fieldOf "port" 1 v = some w ∧ portNumber.read w = .ok s.port) ∧
      ∀ v c, HypervisorCapability.shape.read v = .ok c → ∀ l ∈ LimitField.all,
        limitNumber.readField (fieldOf l.key l.position v) = .ok (l.value c) :=
  ⟨portNumber_exact, limitNumber_exact, fun _ _ => LdapServer.read_port,
    fun _ _ => HypervisorCapability.readField_limits⟩

end SettingsConsole
