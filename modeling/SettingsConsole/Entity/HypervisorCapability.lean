import SettingsConsole.Entity.Row
import SettingsConsole.Json.Decode

/-!
# Hypervisor capabilities

The limits and abilities of one version of a hypervisor. An entry has an identifier of its own.
-/

namespace SettingsConsole

/-- The limits and abilities of one version of a hypervisor. -/
structure HypervisorCapability where
  /-- The identifier of the entry. -/
  id : String
  /-- The kind of hypervisor. -/
  hypervisor : String
  version : Option String
  /-- The most guests that a host may run. -/
  maxGuests : Option Int64
  maxDataVolumes : Option Int64
  maxHostsPerCluster : Option Int64
  securityGroups : Option Bool
  storageMotion : Option Bool
  deriving DecidableEq, Repr

namespace HypervisorCapability

/-- The member of a limit. -/
def ofLimit (n : Int64) : Json := .int n.toInt

open Decode in
/-- How a capability entry is read. Its identifier and its hypervisor have to be given. -/
def shape : Shape HypervisorCapability where
  name := "HypervisorCapability"
  size := 8
  ofMembers ms := do
    let hypervisor ← member ms "hypervisor" text
    let version ← member ms "hypervisorversion" (nullable text)
    let id ← member ms "id" text
    let maxDataVolumes ← member ms "maxdatavolumeslimit" limitNumber.readOption
    let maxGuests ← member ms "maxguestslimit" limitNumber.readOption
    let maxHostsPerCluster ← member ms "maxhostspercluster" limitNumber.readOption
    let securityGroups ← member ms "securitygroupenabled" (nullable boolean)
    let storageMotion ← member ms "storagemotionenabled" (nullable boolean)
    let id ← required "id" id
    let hypervisor ← required "hypervisor" hypervisor
    pure ⟨id, hypervisor, version.join, maxGuests.join, maxDataVolumes.join,
      maxHostsPerCluster.join, securityGroups.join, storageMotion.join⟩
  ofItems vs whole := do
    let id ← item vs 0 whole text
    let hypervisor ← item vs 1 whole text
    let version ← itemOr vs 2 none (nullable text)
    let maxGuests ← itemOr vs 3 none limitNumber.readOption
    let maxDataVolumes ← itemOr vs 4 none limitNumber.readOption
    let maxHostsPerCluster ← itemOr vs 5 none limitNumber.readOption
    let securityGroups ← itemOr vs 6 none (nullable boolean)
    let storageMotion ← itemOr vs 7 none (nullable boolean)
    pure ⟨id, hypervisor, version, maxGuests, maxDataVolumes, maxHostsPerCluster, securityGroups,
      storageMotion⟩

/-- The row of a capability entry. -/
def toRow (c : HypervisorCapability) : Row :=
  Dict.ofList <|
    [("id", .str c.id), ("hypervisor", .str c.hypervisor)] ++
      Row.optional "hypervisorversion" .str c.version ++
      Row.optional "maxguestslimit" ofLimit c.maxGuests ++
      Row.optional "maxdatavolumeslimit" ofLimit c.maxDataVolumes ++
      Row.optional "maxhostspercluster" ofLimit c.maxHostsPerCluster ++
      Row.optional "securitygroupenabled" .bool c.securityGroups ++
      Row.optional "storagemotionenabled" .bool c.storageMotion

/-- The object of a capability entry. -/
def toJson (c : HypervisorCapability) : Json := .ofDict c.toRow

end HypervisorCapability

end SettingsConsole
