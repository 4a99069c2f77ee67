import Mathlib.Logic.Function.Defs
import Mathlib.Tactic.ByContra
import SettingsConsole.Panel.Resource
import SettingsConsole.Proofs.Entity.Reading
import SettingsConsole.Remote.Failure

/-!
# What the rows of entities hold

The row of an entity has no fields but those of its type, and every value in it is of the kind of
its field: a text, a truth value, a port or a limit. So there is no null in a row, and nothing is
nested. A row loses nothing either. Reading the object of a row gives the entity that was written,
however the entity had been given before.
-/

namespace SettingsConsole

/-! ## Kinds of values -/

/-- What the values of a field are. -/
inductive ValueKind where
  | text
  | flag
  | port
  | limit
  deriving DecidableEq, Repr

/-- The values of a kind. -/
inductive ValueKind.Admits : ValueKind → Json → Prop
  | text {s : String} : Admits .text (.str s)
  | flag {b : Bool} : Admits .flag (.bool b)
  | port {n : Int} (hrange : 0 ≤ n ∧ n ≤ 65535) : Admits .port (.int n)
  | limit {n : Int} (hrange : -9223372036854775808 ≤ n ∧ n ≤ 9223372036854775807) :
      Admits .limit (.int n)

/-- No kind admits null or a nested value. -/
theorem ValueKind.Admits.plain {k : ValueKind} {v : Json} (h : k.Admits v) :
    v ≠ .null ∧ (∀ vs, v ≠ .arr vs) ∧ ∀ ms, v ≠ .obj ms := by
  cases h <;> exact ⟨nofun, nofun, nofun⟩

/-- A port is a value of its kind. -/
theorem ValueKind.Admits.ofPort (n : UInt16) : ValueKind.port.Admits (.ofNat n.toNat) := by
  have hlt : n.toNat < 65536 := n.toNat_lt
  exact .port ⟨by omega, by omega⟩

/-- A limit is a value of its kind. -/
theorem ValueKind.Admits.ofLimit (n : Int64) :
    ValueKind.limit.Admits (HypervisorCapability.ofLimit n) :=
  .limit ⟨n.minValue_le_toInt, n.toInt_le⟩

/-! ## Rows -/

/-- A field of the entities of a type. -/
structure Column where
  key : String
  kind : ValueKind
  /-- Whether no row lacks the field. -/
  always : Bool
  deriving DecidableEq, Repr

/-- The fields of the entities that a panel shows. -/
def Resource.columns : Resource → List Column
  | .setting =>
    [⟨"name", .text, true⟩, ⟨"category", .text, true⟩, ⟨"value", .text, false⟩,
      ⟨"description", .text, false⟩, ⟨"scope", .text, false⟩, ⟨"isdynamic", .flag, false⟩]
  | .ldapServer => [⟨"hostname", .text, true⟩, ⟨"port", .port, true⟩]
  | .hypervisor =>
    [⟨"id", .text, true⟩, ⟨"hypervisor", .text, true⟩, ⟨"hypervisorversion", .text, false⟩,
      ⟨"maxguestslimit", .limit, false⟩, ⟨"maxdatavolumeslimit", .limit, false⟩,
      ⟨"maxhostspercluster", .limit, false⟩, ⟨"securitygroupenabled", .flag, false⟩,
      ⟨"storagemotionenabled", .flag, false⟩]

/-- What a row may have under the key of a field. -/
inductive Column.Holds (c : Column) : Option Json → Prop
  | value {v : Json} (hkind : c.kind.Admits v) : Holds c (some v)
  | missing (hsometimes : c.always = false) : Holds c none

/-- A row is one of entities with these fields. -/
structure Row.Fits (columns : List Column) (row : Row) : Prop where
  /-- The row has no other fields. -/
  known : ∀ m ∈ row.toList, ∃ c ∈ columns, c.key = m.1
  /-- Every field has a value of its kind, or it may be missing and is. -/
  holds : ∀ c ∈ columns, c.Holds (row.get? c.key)

namespace Row

variable {columns : List Column} {row : Row} {key : String}

/-- Every member of a row is a field with a value of its kind. -/
theorem Fits.exists_column (h : row.Fits columns) {m : String × Json} (hm : m ∈ row.toList) :
    ∃ c ∈ columns, c.key = m.1 ∧ c.kind.Admits m.2 := by
  obtain ⟨c, hc, hkey⟩ := h.known m hm
  have hget : row.get? c.key = some m.2 := hkey ▸ (row.mem_toList_iff m.1 m.2).mp hm
  have hholds := h.holds c hc
  rw [hget] at hholds
  cases hholds with
  | value hkind => exact ⟨c, hc, hkey, hkind⟩

/-- A text that no row lacks is in every row. -/
theorem Fits.exists_text (h : row.Fits columns) (hkey : ⟨key, .text, true⟩ ∈ columns) :
    ∃ s, row.get? key = some (.str s) := by
  have hholds := h.holds _ hkey
  dsimp only at hholds
  cases hv : row.get? key with
  | none =>
    rw [hv] at hholds
    cases hholds with
    | missing hsometimes => cases hsometimes
  | some v =>
    rw [hv] at hholds
    cases hholds with
    | value hkind => cases hkind with
      | text => exact ⟨_, rfl⟩

/-- A field with a value has one of its kind. -/
theorem holds_some {k : ValueKind} {always : Bool} {v : Json} (h : row.get? key = some v)
    (hkind : k.Admits v) : (⟨key, k, always⟩ : Column).Holds (row.get? key) :=
  h ▸ .value hkind

/-- A field that may have no value has one of its kind or is missing. -/
theorem holds_map {α : Type} {k : ValueKind} {toJson : α → Json} {o : Option α}
    (h : row.get? key = o.map toJson) (hkind : ∀ a, k.Admits (toJson a)) :
    (⟨key, k, false⟩ : Column).Holds (row.get? key) := by
  rw [h]
  cases o with
  | none => exact .missing rfl
  | some a => exact .value (hkind a)

/-- A row with no value for any other key has no other field. -/
theorem known_of_get?_eq_none
    (h : ∀ key, (∀ c ∈ columns, c.key ≠ key) → row.get? key = none) :
    ∀ m ∈ row.toList, ∃ c ∈ columns, c.key = m.1 := by
  intro m hm
  by_contra hnone
  have hother : ∀ c ∈ columns, c.key ≠ m.1 := fun c hc hkey => hnone ⟨c, hc, hkey⟩
  cases (h m.1 hother).symm.trans ((row.mem_toList_iff m.1 m.2).mp hm)

end Row

open Row

/-- The row of a setting has the fields of settings. -/
theorem Setting.fits_toRow (s : Setting) : s.toRow.Fits Resource.setting.columns where
  known := known_of_get?_eq_none fun key hother => by
    simp only [Resource.columns, List.forall_mem_cons] at hother
    rw [get?_toRow]
    grind
  holds := by
    simp only [Resource.columns, List.forall_mem_cons]
    exact ⟨holds_some (s.get?_toRow "name") .text, holds_some (s.get?_toRow "category") .text,
      holds_map (s.get?_toRow "value") fun _ => .text,
      holds_map (s.get?_toRow "description") fun _ => .text,
      holds_map (s.get?_toRow "scope") fun _ => .text,
      holds_map (s.get?_toRow "isdynamic") fun _ => .flag, List.forall_mem_nil _⟩

/-- The row of an LDAP server has the fields of LDAP servers. -/
theorem LdapServer.fits_toRow (s : LdapServer) : s.toRow.Fits Resource.ldapServer.columns where
  known := known_of_get?_eq_none fun key hother => by
    simp only [Resource.columns, List.forall_mem_cons] at hother
    rw [get?_toRow]
    grind
  holds := by
    simp only [Resource.columns, List.forall_mem_cons]
    exact ⟨holds_some (s.get?_toRow "hostname") .text,
      holds_some (s.get?_toRow "port") (.ofPort s.port), List.forall_mem_nil _⟩

/-- The row of a capability entry has the fields of capability entries. -/
theorem HypervisorCapability.fits_toRow (c : HypervisorCapability) :
    c.toRow.Fits Resource.hypervisor.columns where
  known := known_of_get?_eq_none fun key hother => by
    simp only [Resource.columns, List.forall_mem_cons] at hother
    rw [get?_toRow]
    grind
  holds := by
    simp only [Resource.columns, List.forall_mem_cons]
    exact ⟨holds_some (c.get?_toRow "id") .text, holds_some (c.get?_toRow "hypervisor") .text,
      holds_map (c.get?_toRow "hypervisorversion") fun _ => .text,
      holds_map (c.get?_toRow "maxguestslimit") .ofLimit,
      holds_map (c.get?_toRow "maxdatavolumeslimit") .ofLimit,
      holds_map (c.get?_toRow "maxhostspercluster") .ofLimit,
      holds_map (c.get?_toRow "securitygroupenabled") fun _ => .flag,
      holds_map (c.get?_toRow "storagemotionenabled") fun _ => .flag, List.forall_mem_nil _⟩

/-! ## Nothing is lost -/

/-- Rows of a type keep all that is read of its entities. -/
structure Decode.Shape.Faithful {α : Type} (shape : Shape α) (toRow : α → Row) : Prop where
  /-- The object of an entity is a row. -/
  written : ∀ a, Row.ofJson (.ofDict (toRow a)) = .ok (toRow a)
  /-- An entity is read from its row. -/
  read_row : ∀ a, shape.read (.ofDict (toRow a)) = .ok a
  /-- Different entities have different rows. -/
  injective : Function.Injective toRow
  /-- What is read of any value is read of the row that is made of it. -/
  reread : ∀ v a, shape.read v = .ok a → shape.read (.ofDict (toRow a)) = .ok a

/-- The object of a row is that row. -/
theorem Row.ofJson_ofDict (row : Row) : ofJson (.ofDict row) = .ok row :=
  congrArg Except.ok row.ofList_toList

/-- Rows from which the entities are read keep all that is read. -/
theorem Decode.Shape.Faithful.of_read {α : Type} {shape : Shape α} {toRow : α → Row}
    (h : ∀ a, shape.read (.ofDict (toRow a)) = .ok a) : shape.Faithful toRow where
  written a := Row.ofJson_ofDict (toRow a)
  read_row := h
  injective a b hab := by
    have hread : shape.read (.ofDict (toRow a)) = .ok b := hab ▸ h b
    exact Except.ok.inj ((h a).symm.trans hread)
  reread _ a _ := h a

/-- The rows of settings, LDAP servers and capability entries keep all that is read of them. -/
theorem rows_faithful :
    Setting.shape.Faithful Setting.toRow ∧ LdapServer.shape.Faithful LdapServer.toRow ∧
      HypervisorCapability.shape.Faithful HypervisorCapability.toRow :=
  ⟨.of_read Setting.read_toJson, .of_read LdapServer.read_toJson,
    .of_read HypervisorCapability.read_toJson⟩

end SettingsConsole
