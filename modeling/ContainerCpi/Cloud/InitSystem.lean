import ContainerCpi.Text.Basic

/-!
# Init styles of stemcells

Older stemcells supervise their services with runit and need the container's command to
start `runsvdir`; newer ones boot systemd as the container's entrypoint.  Which one an image
uses is read from a probe container's output: its `/etc/os-release` (release `noble`, or
version 24.04 and later, boot systemd) and whether the runit supervisor exists at all (an
image without it is systemd whatever its release says).
-/

namespace ContainerCpi

/-- How a stemcell supervises its services. -/
inductive InitSystem where
  | runit
  | systemd
  deriving DecidableEq, Repr, Inhabited

namespace InitSystem

/-- The style's name. -/
def name : InitSystem → String
  | .runit => "runit"
  | .systemd => "systemd"

/-- The style with a given name. -/
def ofName? : String → Option InitSystem
  | "runit" => some .runit
  | "systemd" => some .systemd
  | _ => none

/-- Every style's name, in declaration order. -/
def names : List String := ["runit", "systemd"]

/-- The probe's shell script: the os-release file (or a marker when it is missing) and
whether the runit supervisor exists. -/
def probeScript : String :=
  "cat /etc/os-release 2>/dev/null || echo OS_RELEASE_NOT_FOUND; " ++
    "test -f /usr/sbin/runsvdir-start && echo RUNSVDIR_EXISTS || echo RUNSVDIR_MISSING"

/-- A 32-bit unsigned decimal: an optional `+`, then one or more digits. -/
def parseU32? (s : String) : Option Nat :=
  let ds := match s.toList with
    | '+' :: ds => ds
    | ds => ds
  if ds.isEmpty || !ds.all Char.isDigit then none
  else
    let v := ds.foldl (fun acc c => acc * 10 + (c.toNat - 48)) 0
    if v < Nat.pow 2 32 then some v else none

/-- A release version as `(major, minor)`; the minor defaults to zero and later parts are
ignored. -/
def parseVersion? (version : String) : Option (Nat × Nat) :=
  match version.splitOn "." with
  | [] => none
  | [major] => (parseU32? (Text.trim major)).map fun m => (m, 0)
  | major :: minor :: _ =>
    match parseU32? (Text.trim major), parseU32? (Text.trim minor) with
    | some a, some b => some (a, b)
    | _, _ => none

/-- Whether a version is 24.04 or later. -/
def bootsSystemd (v : Nat × Nat) : Bool := v.1 > 24 || (v.1 == 24 && v.2 ≥ 4)

/-- The release facts found in os-release lines: codename, version, and whether any was
found.  Later lines win. -/
def releaseFacts (output : String) : String × String × Bool :=
  let step (st : String × String × Bool) (line : String) : String × String × Bool :=
    let (codename, version, found) := st
    match Text.splitOnce line '=' with
    | none => st
    | some (key, value) =>
      let value := Text.trimChar (Text.trim value) '"'
      match Text.trim key with
      | "VERSION_CODENAME" => (value, version, true)
      | "VERSION_ID" => (codename, value, true)
      | _ => (codename, version, found)
  (Text.lines output).foldl step ("", "", false)

/-- The style a probe's output shows. -/
def classify (output : String) : InitSystem :=
  let (codename, version, found) := releaseFacts output
  let byRelease :=
    if !found || Text.contains output "OS_RELEASE_NOT_FOUND" then InitSystem.runit
    else if codename == "noble" || (parseVersion? version).any bootsSystemd then .systemd
    else .runit
  if byRelease == .runit && Text.contains output "RUNSVDIR_MISSING" then .systemd
  else byRelease

/-- The container's entrypoint. -/
def entrypoint : InitSystem → Option (List String)
  | .systemd => some ["/sbin/init"]
  | .runit => none

/-- The container's command; for runit it prepares the filesystem, runs `netInit` and hands
over to the supervisor. -/
def command (init : InitSystem) (netInit : String) : Option (List String) :=
  match init with
  | .systemd => none
  | .runit =>
    let script := " && ".intercalate
      ["umount /etc/resolv.conf", "umount /etc/hosts", "umount /etc/hostname", netInit,
       "rm -rf /var/vcap/data/sys", "mkdir -p /var/vcap/data/sys", "mkdir -p /var/vcap/store",
       "sed -i 's/chronyc/# chronyc/g' /var/vcap/bosh/bin/sync-time",
       "exec env -i /usr/sbin/runsvdir-start"]
    some ["bash", "-c", script]

/-- The command run inside the VM once it has started. -/
def postStart : InitSystem → Option (List String)
  | .systemd => some ["bash", "-c", "umount /etc/hosts"]
  | .runit => none

end InitSystem

end ContainerCpi
