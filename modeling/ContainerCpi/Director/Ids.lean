import ContainerCpi.Director.Error

/-!
# Identities handed to the director

A VM is known by `c-<uuid>` (also its container's name), a persistent disk by `vol-<uuid>`
(also its volume's name), and every VM owns one ephemeral disk `vol-eph-<vm>`, which the
director may never address.  A persistent disk is mounted in the VM at
`/warden-cpi-dev/<disk>`, its *hint*.

All identities are plain strings on the wire; `VmId.parse?` and `DiskId.parse?` are the
checks for identities that the director hands back.
-/

namespace ContainerCpi

/-! Fixed locations shared with the agent inside a VM. -/
namespace Paths

/-- The agent environment document. -/
def agentEnv : String := "/var/vcap/bosh/warden-cpi-agent-env.json"

/-- Settings the agent rewrites while it runs. -/
def updateSettings : String := "/var/vcap/bosh/update_settings.json"

/-- DNS records kept by the agent. -/
def dnsRecords : String := "/var/vcap/instance/dns/records.json"

/-- Mount point of the ephemeral disk. -/
def ephemeralMount : String := "/var/vcap/data/"

/-- Directory holding the mount points of persistent disks. -/
def persistentDiskRoot : String := "/warden-cpi-dev"

end Paths

/-- A VM's identity; also the name of its container. -/
structure VmId where
  value : String
  deriving DecidableEq, Repr, Inhabited

/-- A disk's identity; also the name of its volume. -/
structure DiskId where
  value : String
  deriving DecidableEq, Repr, Inhabited

/-- The agent's identity, chosen by the director. -/
structure AgentId where
  value : String
  deriving DecidableEq, Repr, Inhabited

/-- An imported stemcell: the image a VM boots. -/
structure StemcellId where
  value : String
  deriving DecidableEq, Repr, Inhabited

/-- Where a persistent disk is mounted inside the VM; empty for "none". -/
structure DiskHint where
  path : String
  deriving DecidableEq, Repr, Inhabited

/-- Prefix of VM identities. -/
def VmId.leader : String := "c-"

/-- Prefix of disk identities. -/
def DiskId.leader : String := "vol-"

/-- Prefix of ephemeral disk identities. -/
def DiskId.ephemeralLeader : String := "vol-eph-"

/-- A fresh VM identity around a UUID. -/
def VmId.ofUuid (uuid : String) : VmId := ⟨VmId.leader ++ uuid⟩

/-- A fresh disk identity around a UUID. -/
def DiskId.ofUuid (uuid : String) : DiskId := ⟨DiskId.leader ++ uuid⟩

/-- The VM's scratch volume. -/
def VmId.ephemeralDisk (vm : VmId) : DiskId := ⟨DiskId.ephemeralLeader ++ vm.value⟩

/-- Whether this is a VM's scratch volume. -/
def DiskId.isEphemeral (d : DiskId) : Bool := d.value.startsWith DiskId.ephemeralLeader

/-- The mount path of a persistent disk. -/
def DiskHint.forDisk (d : DiskId) : DiskHint := ⟨Paths.persistentDiskRoot ++ "/" ++ d.value⟩

/-- No mount path. -/
def DiskHint.empty : DiskHint := ⟨""⟩

/-- Whether the hint names no path. -/
def DiskHint.isEmpty (h : DiskHint) : Bool := h.path.isEmpty

/-- A VM identity handed back by the director: its prefix and at least one more character. -/
def VmId.parse (s : String) : Except SpecError VmId :=
  if s.length > VmId.leader.length ∧ s.startsWith VmId.leader then .ok ⟨s⟩
  else .error (.invalidId "vm" s VmId.leader)

/-- A disk identity handed back by the director: its prefix and at least one more character,
and not an ephemeral disk. -/
def DiskId.parse (s : String) : Except SpecError DiskId :=
  if s.length > DiskId.leader.length ∧ s.startsWith DiskId.leader ∧
      !(DiskId.isEphemeral ⟨s⟩) then .ok ⟨s⟩
  else .error (.invalidId "disk" s DiskId.leader)

end ContainerCpi
