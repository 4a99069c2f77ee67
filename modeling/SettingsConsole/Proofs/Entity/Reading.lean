import SettingsConsole.Entity.HypervisorCapability
import SettingsConsole.Entity.LdapServer
import SettingsConsole.Entity.Setting
import SettingsConsole.Proofs.Text.Numeral

/-!
# Entities read back from their objects

The object of an entity leaves out the fields without a value. Whatever the fields are, reading the
object gives the entity again. A port that is given as a text reads as the same port.
-/

namespace SettingsConsole

open Text

/-! ## Members of an object -/

/-- An optional member after all others counts if it has a value. -/
theorem Row.get?_append_optional {α : Type} (ms : List (String × Json)) (key : String)
    (toJson : α → Json) (o : Option α) (other : String) :
    (Dict.ofList (ms ++ optional key toJson o)).get? other =
      if other = key then (o.map toJson).or ((Dict.ofList ms).get? other)
      else (Dict.ofList ms).get? other := by
  cases o with
  | none => simp [optional]
  | some a =>
    rw [optional, Dict.ofList_append_singleton, Dict.get?_insert]
    rfl

namespace Decode

variable {α : Type} {d : Dict Json} {key : String} {read : Json → Except Fault α}

/-- A member that is there is read. -/
theorem member_of_some {v : Json} {a : α} (h : d.get? key = some v) (hread : read v = .ok a) :
    member d.toList key read = .ok (some a) := by
  unfold member
  rw [show d.toList.lookup key = some v from h]
  simp only [hread]
  rfl

/-- A member that is there only if it has a value is read as that value. -/
theorem member_of_map {β : Type} {toJson : β → Json} {o : Option β} (h : d.get? key = o.map toJson)
    {read : Json → Except Fault (Option β)} (hread : ∀ b, read (toJson b) = .ok (some b)) :
    member d.toList key read = .ok (o.map some) := by
  cases o with
  | none =>
    unfold member
    rw [show d.toList.lookup key = none from h]
    rfl
  | some b => exact member_of_some h (hread b)

/-- The value of an optional field is the value that was read for it. -/
theorem join_map_some (o : Option α) : (o.map some).join = o := by
  cases o <;> rfl

/-- A signed number of 64 bits is read as itself. -/
theorem limitNumber_readOption (n : Int64) :
    limitNumber.readOption (.int n.toInt) = .ok (some n) := by
  have hrange : minInt64 ≤ n.toInt ∧ n.toInt ≤ maxInt64 := ⟨n.minValue_le_toInt, n.toInt_le⟩
  have hread : limitNumber.read (.int n.toInt) = .ok n := by
    simp only [Numeric.read, if_pos hrange, limitNumber, Int64.ofInt_toInt]
  simp only [Numeric.readOption, hread]
  rfl

/-- A port is read as itself. -/
theorem portNumber_read (n : UInt16) : portNumber.read (.ofNat n.toNat) = .ok n := by
  have hlt : n.toNat < 65536 := n.toNat_lt
  have hrange : minInt64 ≤ (n.toNat : Int) ∧ (n.toNat : Int) ≤ maxInt64 := by
    simp only [minInt64, maxInt64]
    omega
  have hport : (0 : Int) ≤ (n.toNat : Int) ∧ (n.toNat : Int) ≤ 65535 := by omega
  simp only [Json.ofNat, Numeric.read, if_pos hrange, portNumber, if_pos hport, Int.toNat_natCast,
    UInt16.ofNat_toNat]

/-- A port that is given as a text is read as itself. -/
theorem portNumber_read_text (n : UInt16) : portNumber.read (.str (toString n.toNat)) = .ok n := by
  simp only [Numeric.read, portNumber, Numeral.word16_trim_toString]
  rfl

end Decode

/-! ## Entities -/

open Decode

/-- The members of the row of a setting. -/
theorem Setting.get?_toRow (s : Setting) (key : String) :
    s.toRow.get? key =
      if key = "name" then some (.str s.name)
      else if key = "category" then some (.str s.category)
      else if key = "value" then s.value.map .str
      else if key = "description" then s.description.map .str
      else if key = "scope" then s.scope.map .str
      else if key = "isdynamic" then s.dynamic.map .bool
      else none := by
  have hbase : (Dict.ofList [("name", Json.str s.name), ("category", .str s.category)]).get? key =
      if key = "name" then some (.str s.name)
      else if key = "category" then some (.str s.category) else none := by
    simp only [Dict.get?_ofList, List.reverse_cons, List.reverse_nil, List.nil_append,
      List.singleton_append, List.lookup_cons, List.lookup_nil]
    grind
  simp only [toRow, Row.get?_append_optional, hbase]
  grind

/-- A setting is read back from its object. -/
theorem Setting.read_toJson (s : Setting) : shape.read s.toJson = .ok s := by
  have hname : member s.toRow.toList "name" text = .ok (some s.name) :=
    member_of_some (s.get?_toRow "name") rfl
  have hcategory : member s.toRow.toList "category" text = .ok (some s.category) :=
    member_of_some (s.get?_toRow "category") rfl
  have hvalue : member s.toRow.toList "value" (nullable text) = .ok (s.value.map some) :=
    member_of_map (s.get?_toRow "value") fun _ => rfl
  have hdescription :
      member s.toRow.toList "description" (nullable text) = .ok (s.description.map some) :=
    member_of_map (s.get?_toRow "description") fun _ => rfl
  have hscope : member s.toRow.toList "scope" (nullable text) = .ok (s.scope.map some) :=
    member_of_map (s.get?_toRow "scope") fun _ => rfl
  have hdynamic :
      member s.toRow.toList "isdynamic" (nullable boolean) = .ok (s.dynamic.map some) :=
    member_of_map (s.get?_toRow "isdynamic") fun _ => rfl
  change shape.ofMembers s.toRow.toList = .ok s
  simp only [shape, hname, hcategory, hvalue, hdescription, hscope, hdynamic, bind, Except.bind,
    required, join_map_some, Option.getD_some]
  rfl

/-- The members of the row of an LDAP server. -/
theorem LdapServer.get?_toRow (s : LdapServer) (key : String) :
    s.toRow.get? key =
      if key = "hostname" then some (.str s.hostname)
      else if key = "port" then some (.ofNat s.port.toNat)
      else none := by
  simp only [toRow, Dict.get?_ofList, List.reverse_cons, List.reverse_nil, List.nil_append,
    List.singleton_append, List.lookup_cons, List.lookup_nil]
  grind

/-- An LDAP server is read from an object with its host name and with anything that is read as its
port. -/
theorem LdapServer.read_object {s : LdapServer} {port : Json}
    (hport : portNumber.read port = .ok s.port) :
    shape.read (.object [("hostname", .str s.hostname), ("port", port)]) = .ok s := by
  let d : Dict Json := .ofList [("hostname", .str s.hostname), ("port", port)]
  have hget : d.get? "hostname" = some (.str s.hostname) ∧ d.get? "port" = some port := by
    simp [d, Dict.get?_ofList, List.lookup_cons]
  have hhostname : member d.toList "hostname" text = .ok (some s.hostname) :=
    member_of_some hget.1 rfl
  have hport : member d.toList "port" portNumber.read = .ok (some s.port) :=
    member_of_some hget.2 hport
  change shape.ofMembers d.toList = .ok s
  simp only [shape, hhostname, hport]
  rfl

/-- An LDAP server is read back from its object. -/
theorem LdapServer.read_toJson (s : LdapServer) : shape.read s.toJson = .ok s :=
  read_object (portNumber_read s.port)

/-- The members of the row of a capability entry. -/
theorem HypervisorCapability.get?_toRow (c : HypervisorCapability) (key : String) :
    c.toRow.get? key =
      if key = "id" then some (.str c.id)
      else if key = "hypervisor" then some (.str c.hypervisor)
      else if key = "hypervisorversion" then c.version.map .str
      else if key = "maxguestslimit" then c.maxGuests.map ofLimit
      else if key = "maxdatavolumeslimit" then c.maxDataVolumes.map ofLimit
      else if key = "maxhostspercluster" then c.maxHostsPerCluster.map ofLimit
      else if key = "securitygroupenabled" then c.securityGroups.map .bool
      else if key = "storagemotionenabled" then c.storageMotion.map .bool
      else none := by
  have hbase : (Dict.ofList [("id", Json.str c.id), ("hypervisor", .str c.hypervisor)]).get? key =
      if key = "id" then some (.str c.id)
      else if key = "hypervisor" then some (.str c.hypervisor) else none := by
    simp only [Dict.get?_ofList, List.reverse_cons, List.reverse_nil, List.nil_append,
      List.singleton_append, List.lookup_cons, List.lookup_nil]
    grind
  simp only [toRow, Row.get?_append_optional, hbase]
  grind

/-- A capability entry is read back from its object. -/
theorem HypervisorCapability.read_toJson (c : HypervisorCapability) :
    shape.read c.toJson = .ok c := by
  have hid : member c.toRow.toList "id" text = .ok (some c.id) :=
    member_of_some (c.get?_toRow "id") rfl
  have hhypervisor : member c.toRow.toList "hypervisor" text = .ok (some c.hypervisor) :=
    member_of_some (c.get?_toRow "hypervisor") rfl
  have hversion :
      member c.toRow.toList "hypervisorversion" (nullable text) = .ok (c.version.map some) :=
    member_of_map (c.get?_toRow "hypervisorversion") fun _ => rfl
  have hlimit {key : String} {o : Option Int64} (h : c.toRow.get? key = o.map ofLimit) :
      member c.toRow.toList key limitNumber.readOption = .ok (o.map some) :=
    member_of_map h limitNumber_readOption
  have hboolean {key : String} {o : Option Bool} (h : c.toRow.get? key = o.map .bool) :
      member c.toRow.toList key (nullable boolean) = .ok (o.map some) :=
    member_of_map h fun _ => rfl
  have hguests := hlimit (c.get?_toRow "maxguestslimit")
  have hvolumes := hlimit (c.get?_toRow "maxdatavolumeslimit")
  have hhosts := hlimit (c.get?_toRow "maxhostspercluster")
  have hgroups := hboolean (c.get?_toRow "securitygroupenabled")
  have hmotion := hboolean (c.get?_toRow "storagemotionenabled")
  change shape.ofMembers c.toRow.toList = .ok c
  simp only [shape, hid, hhypervisor, hversion, hguests, hvolumes, hhosts, hgroups, hmotion, bind,
    Except.bind, required, join_map_some]
  rfl

end SettingsConsole
