import ContainerCpi.Cloud.Props
import ContainerCpi.Decimal.Digits

/-!
# Checks on requested resources

Before any engine object is created, the requested limits and mounts are checked, in a
fixed order, and the first failing check is reported: memory, swap, CPU shares, CPU quota
and period, nano-CPUs, the CPU set, the process limit, process resource limits, mounts, and
bind mounts.  Checks against the host's capacity run only when the capacity is known.

Two settings are filled in on the way: a CPU quota without a positive period gets the
default period of 100ms, and a mount without a kind becomes a volume mount.

CPU counts in messages are quotients of doubles written with two decimals.
-/

namespace ContainerCpi

namespace Resources

/-- The smallest memory limit the engine accepts (32MB). -/
def minMemory : Int := 32 * 1024 * 1024

/-- The period applied when a quota is given without one (100ms). -/
def defaultCpuPeriod : Int := 100000

/-- The smallest CPU quota (1ms per period). -/
def minCpuQuota : Int := 1000

/-- The smallest nano-CPU request (0.01 CPU). -/
def minNanoCpus : Int := 10000000

/-- Mount targets that would shadow the VM's own system. -/
def protectedMountTargets : List String := ["/", "/etc", "/usr", "/bin", "/sbin", "/lib", "/lib64"]

/-- Bind destinations refused beside `protectedMountTargets`. -/
def protectedBindTargets : List String := ["/proc", "/sys"]

/-- Options a bind mount may carry. -/
def bindOptions : List String :=
  ["ro", "rw", "z", "Z", "rslave", "rprivate", "rshared", "slave", "private", "shared"]

/-- A validation failure. -/
def invalid {α : Type} (message : String) : CpiResult α := .error (.validation message)

/-- The double nearest to an integer. -/
def toFloat (i : Int) : Float := Float.ofInt i

/-- `a / b` as doubles, written with two decimals. -/
def ratioText (a : Float) (b : Float) : String := Decimal.fixed (a / b) 2

/-- Memory: at least the minimum and at most the host's memory; swap, when set, not below
the memory limit. -/
def checkMemory (host : Option HostResources) (hc : HostConfig) : CpiResult Unit := do
  let memory := hc.memory?.getD 0
  if memory != 0 then
    if memory < 0 then invalid s!"Memory limit cannot be negative: {memory}"
    else if memory < minMemory then
      let m := minMemory
      invalid s!"Memory limit {memory} bytes is below the minimum of {m} bytes (32MB)"
    else
      match host with
      | some r =>
        if memory > r.totalMemory then
          let total := r.totalMemory
          invalid s!"Memory limit {memory} bytes exceeds host total memory of {total} bytes"
        else pure ()
      | none => pure ()
  let swap := hc.memorySwap?.getD 0
  if swap > 0 && memory > 0 && swap < memory then
    invalid s!"MemorySwap ({swap}) must be larger than Memory limit ({memory})"
  else pure ()

/-- A signed 64-bit decimal: an optional sign, then one or more digits. -/
def parseI64? (s : String) : Option Int :=
  let (negative, ds) := match s.toList with
    | '-' :: ds => (true, ds)
    | '+' :: ds => (false, ds)
    | ds => (false, ds)
  if ds.isEmpty || !ds.all Char.isDigit then none
  else
    let v : Int := ds.foldl (fun acc c => acc * 10 + (c.toNat - 48 : Nat)) 0
    let v := if negative then -v else v
    if -(Int.pow 2 63) ≤ v && v < Int.pow 2 63 then some v else none

/-- A CPU set like `0-3,6`: every range ordered and every CPU on the host. -/
def checkCpuset (cpuset : String) (cpus : Int) : CpiResult Unit :=
  let parts := ((cpuset.splitOn ",").map Text.trim).filter (!·.isEmpty)
  parts.forM fun part => do
    let (start, stop) := match Text.splitOnce part '-' with
      | some (a, b) => (a, b)
      | none => (part, part)
    match parseI64? (Text.trim start), parseI64? (Text.trim stop) with
    | some a, some b =>
      if a > b then invalid s!"Invalid CpusetCpus '{cpuset}'"
      else if b ≥ cpus then invalid s!"CpusetCpus '{cpuset}' references CPU {b}, host has {cpus}"
      else pure ()
    | _, _ => invalid s!"Invalid CpusetCpus '{cpuset}'"

/-- The CPU quota, against its period (the default when none positive is given): at least the
minimum, and within the host's CPUs when these are known.  Returns the host configuration with
the default period filled in where the quota needs it. -/
def checkQuota (host : Option HostResources) (hc : HostConfig) : CpiResult HostConfig :=
  let quota := hc.cpuQuota?.getD 0
  if quota > 0 then
    let (hc, period) := match hc.cpuPeriod? with
      | some p => if p > 0 then (hc, p) else (hc.set "CpuPeriod" (Json.int defaultCpuPeriod), defaultCpuPeriod)
      | none => (hc.set "CpuPeriod" (Json.int defaultCpuPeriod), defaultCpuPeriod)
    if quota < minCpuQuota then
      let m := minCpuQuota
      invalid s!"CPU quota {quota} is below the minimum of {m} (1ms)"
    else
      match host with
      | some r =>
        let requested := toFloat quota / toFloat period
        if requested > toFloat r.cpus then
          let text := ratioText (toFloat quota) (toFloat period)
          let cpus := r.cpus
          invalid s!"CPU quota/period implies {text} CPUs, host has {cpus}"
        else pure hc
      | none => pure hc
  else pure hc

/-- Nano-CPUs, when requested: within the host's CPUs when these are known, and at least the
minimum. -/
def checkNanoCpus (host : Option HostResources) (nano : Int) : CpiResult Unit := do
  if nano > 0 then
    match host with
    | some r =>
      let requested := toFloat nano / 1e9
      if requested > toFloat r.cpus then
        let text := ratioText (toFloat nano) 1e9
        let cpus := r.cpus
        invalid s!"NanoCpus requests {text} CPUs, host has {cpus}"
      else pure ()
    | none => pure ()
    if nano < minNanoCpus then
      let m := minNanoCpus
      invalid s!"NanoCpus {nano} is below the minimum of {m} (0.01 CPU)"
    else pure ()

/-- CPU: shares not negative; the quota; nano-CPUs; the CPU set, when the host is known.
Returns the host configuration with the default period filled in. -/
def checkCpu (host : Option HostResources) (hc : HostConfig) : CpiResult HostConfig := do
  let shares := hc.cpuShares?.getD 0
  if shares < 0 then invalid s!"CPU shares cannot be negative: {shares}" else pure ()
  let hc ← checkQuota host hc
  checkNanoCpus host (hc.nanoCpus?.getD 0)
  match hc.cpusetCpus?, host with
  | some cpuset, some r => checkCpuset cpuset r.cpus
  | _, _ => pure ()
  return hc

/-- The process limit is not negative. -/
def checkPidsLimit (limit : Option Int) : CpiResult Unit :=
  match limit with
  | some l => if l < 0 then invalid s!"PIDs limit cannot be negative: {l}" else pure ()
  | none => pure ()

/-- Each resource limit: soft and hard not negative, soft not above hard. -/
def checkUlimits (ulimits : List (Option String × Option Int × Option Int)) : CpiResult Unit :=
  ulimits.forM fun (name, soft, hard) =>
    let name := name.getD ""
    let soft := soft.getD 0
    let hard := hard.getD 0
    if soft < 0 || hard < 0 then invalid s!"Ulimit {name} cannot be negative"
    else if soft > hard then
      invalid s!"Ulimit {name}: soft limit ({soft}) cannot exceed hard limit ({hard})"
    else pure ()

/-- A mount: a bind, volume, memory or named-pipe mount (no kind means volume) onto a
target that is not a system directory; bind mounts name a source; memory file systems have
no negative size.  Returns the mount with its kind filled in. -/
def checkMount (m : Mount) : CpiResult Mount := do
  let (m, kind) ← match m.kind? with
    | none => pure (m.set "Type" (.string "volume"), "volume")
    | some "" => pure (m.set "Type" (.string "volume"), "volume")
    | some k =>
      if ["bind", "volume", "tmpfs", "npipe"].contains k then pure (m, k)
      else invalid s!"Invalid mount type: {k}"
  let target := m.target?.getD ""
  if target.isEmpty then invalid "Mount target is required"
  else if protectedMountTargets.contains target then
    invalid s!"Mounting over system directory {target} is not allowed"
  else if kind == "bind" && (m.source?.getD "").isEmpty then
    invalid s!"Bind mount to {target} requires a source"
  else if kind == "tmpfs" then
    match m.tmpfsSize? with
    | some size => if size < 0 then invalid s!"Tmpfs size cannot be negative: {size}" else pure m
    | none => pure m
  else pure m

/-- A bind mount `source:destination[:options]`: both parts present, the destination not a
system directory, every option known. -/
def checkBind (bind : String) : CpiResult Unit :=
  match bind.splitOn ":" with
  | source :: dest :: rest =>
    if source.isEmpty || dest.isEmpty then
      invalid s!"Bind '{bind}' requires both source and destination"
    else if protectedMountTargets.contains dest || protectedBindTargets.contains dest then
      invalid s!"Mounting over system directory {dest} is not allowed"
    else
      match rest with
      | options :: _ =>
        (options.splitOn ",").forM fun option =>
          if bindOptions.contains option then pure ()
          else invalid s!"Invalid bind option '{option}' in '{bind}'"
      | [] => pure ()
  | _ => invalid s!"Invalid bind format '{bind}', expected source:destination[:options]"

end Resources

open Resources in
/-- Check the properties against the host's capacity (when known), filling in the CPU
period and mount kinds. -/
def VmProps.validate (host : Option HostResources) (p : VmProps) : CpiResult VmProps := do
  let hc := p.hostConfig
  checkMemory host hc
  let hc ← checkCpu host hc
  checkPidsLimit hc.pidsLimit?
  match hc.ulimits? with
  | some us => checkUlimits us
  | none => pure ()
  let hc ← match hc.mounts? with
    | some ms => do
      let ms ← ms.mapM checkMount
      pure (hc.setMounts ms)
    | none => pure hc
  match hc.binds? with
  | some bs => bs.forM checkBind
  | none => pure ()
  return { p with hostConfig := hc }

end ContainerCpi
