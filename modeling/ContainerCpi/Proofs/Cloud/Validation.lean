import ContainerCpi.Proofs.Vm.Assembly

/-!
# The rules the resource checks apply

The resource checks are a list of rules checked in order: the first rule that does not hold
is reported, and when all hold the properties come back with the CPU period and the mount
kinds filled in (`VmProps.validate_eq_outcome`).  A rule is a condition with the message its
failure reports (`Resources.Rule`); `Resources.outcome` checks a list of them.

Each check is equated with the rules it applies (`Resources.checkMemory_eq` and its
siblings), and the rules of the properties are those of memory, CPU, processes, resource
limits, mounts and binds, in this order (`VmProps.rules`).  The rules against the host's
capacity are present only when it is known.
-/

namespace ContainerCpi

namespace Resources

/-! ## Rules checked in order -/

/-- A rule of the checks: whether it holds, and what its failure reports. -/
structure Rule where
  holds : Bool
  message : String

variable {α β : Type}

/-- Rules checked in order: the first that does not hold fails with its message, and when all
hold the result is `a`. -/
def outcome : List Rule → α → CpiResult α
  | [], a => .ok a
  | r :: rs, a => if r.holds then outcome rs a else invalid r.message

@[simp] theorem outcome_nil (a : α) : outcome [] a = .ok a := rfl

@[simp] theorem invalid_bind (m : String) (f : α → CpiResult β) :
    (invalid m >>= f) = invalid m := rfl

theorem outcome_cons (r : Rule) (rs : List Rule) (a : α) :
    outcome (r :: rs) a = if r.holds then outcome rs a else invalid r.message := rfl

theorem outcome_cons_not (b : Bool) (message : String) (rs : List Rule) (a : α) :
    outcome (⟨!b, message⟩ :: rs) a = if b then invalid message else outcome rs a := by
  cases b <;> rfl

theorem outcome_eq_ok_iff {rs : List Rule} {a b : α} :
    outcome rs a = .ok b ↔ rs.all Rule.holds = true ∧ b = a := by
  induction rs with
  | nil => simp [eq_comm]
  | cons r rs ih =>
    rw [outcome_cons, List.all_cons, Bool.and_eq_true]
    cases r.holds
    · simp [invalid]
    · simp [ih]

theorem outcome_append (rs rs' : List Rule) (a : α) (b : β) :
    (outcome rs a >>= fun _ => outcome rs' b) = outcome (rs ++ rs') b := by
  induction rs with
  | nil => rfl
  | cons r rs ih =>
    rw [outcome_cons, List.cons_append, outcome_cons]
    cases r.holds
    · rfl
    · exact ih

theorem outcome_bind (rs : List Rule) (a : α) (k : α → CpiResult β) :
    (outcome rs a >>= k) = (outcome rs () >>= fun _ => k a) := by
  induction rs with
  | nil => rfl
  | cons r rs ih =>
    rw [outcome_cons, outcome_cons]
    cases r.holds
    · rfl
    · exact ih

@[simp] theorem outcome_bind_pure (rs : List Rule) (a : α) :
    (outcome rs () >>= fun _ => pure a) = outcome rs a := by
  have hjoin := outcome_append rs [] () a
  rw [List.append_nil] at hjoin
  exact hjoin

theorem outcome_map (rs : List Rule) (a : α) (f : α → β) :
    (outcome rs a >>= fun y => pure (f y)) = outcome rs (f a) := by
  rw [outcome_bind, outcome_bind_pure]

theorem forM_outcome {xs : List α} {g : α → CpiResult Unit} {f : α → List Rule}
    (hg : ∀ x ∈ xs, g x = outcome (f x) ()) : xs.forM g = outcome (xs.flatMap f) () := by
  induction xs with
  | nil => rfl
  | cons x xs ih =>
    show (g x >>= fun _ => xs.forM g) = _
    rw [hg x List.mem_cons_self, ih fun y hy => hg y (List.mem_cons_of_mem x hy),
      List.flatMap_cons, outcome_append]

theorem mapM_outcome (xs : List α) (f : α → List Rule) (g : α → β) :
    xs.mapM (fun x => outcome (f x) (g x)) = outcome (xs.flatMap f) (xs.map g) := by
  induction xs with
  | nil => rfl
  | cons x xs ih =>
    rw [List.mapM_cons, ih, List.flatMap_cons, List.map_cons]
    simp only [outcome_map]
    rw [outcome_bind, outcome_append]

/-! ## The rules of each check -/

/-- The memory rules: the limit not negative; unset or at least the minimum; unset or within
the host's memory, when that is known; and a set swap limit not below a set memory limit. -/
def memoryRules (host : Option HostResources) (hc : HostConfig) : List Rule :=
  let memory := hc.memory?.getD 0
  let swap := hc.memorySwap?.getD 0
  [⟨decide (0 ≤ memory), s!"Memory limit cannot be negative: {memory}"⟩,
    ⟨decide (memory = 0 ∨ minMemory ≤ memory),
      s!"Memory limit {memory} bytes is below the minimum of {minMemory} bytes (32MB)"⟩] ++
  (host.map fun r => (⟨decide (memory = 0 ∨ memory ≤ r.totalMemory),
      s!"Memory limit {memory} bytes exceeds host total memory of {r.totalMemory} bytes"⟩ :
        Rule)).toList ++
  [⟨decide (¬(0 < swap ∧ 0 < memory ∧ swap < memory)),
      s!"MemorySwap ({swap}) must be larger than Memory limit ({memory})"⟩]

theorem checkMemory_eq (host : Option HostResources) (hc : HostConfig) :
    checkMemory host hc = outcome (memoryRules host hc) () := by
  unfold checkMemory memoryRules
  generalize hc.memory?.getD 0 = memory
  generalize hc.memorySwap?.getD 0 = swap
  have hmin : minMemory = 33554432 := rfl
  -- both sides are decision trees over the same comparisons: on each path they fail with the
  -- same message, or the path's conditions contradict each other
  cases host <;>
    simp only [Option.map_none, Option.map_some, Option.toList_none, Option.toList_some,
      List.append_nil, List.cons_append, List.nil_append, outcome_cons, outcome_nil, bne_iff_ne,
      ne_eq, gt_iff_lt, Bool.and_eq_true, decide_eq_true_eq] <;>
    split_ifs <;> first | omega | rfl

/-- The bounds a part of a CPU set names: those of a range `a-b`, or one CPU twice. -/
def cpusetBounds (part : String) : String × String :=
  match Text.splitOnce part '-' with
  | some (a, b) => (a, b)
  | none => (part, part)

/-- The rules of a part of a CPU set: its bounds are numbers, in order, and the upper one is a
CPU of the host. -/
def cpusetPartRules (cpuset : String) (cpus : Int) (part : String) : List Rule :=
  match parseI64? (Text.trim (cpusetBounds part).1), parseI64? (Text.trim (cpusetBounds part).2) with
  | some a, some b =>
    [⟨decide (a ≤ b), s!"Invalid CpusetCpus '{cpuset}'"⟩,
      ⟨decide (b < cpus), s!"CpusetCpus '{cpuset}' references CPU {b}, host has {cpus}"⟩]
  | _, _ => [⟨false, s!"Invalid CpusetCpus '{cpuset}'"⟩]

/-- The rules of a CPU set: those of each of its non-blank parts. -/
def cpusetRules (cpuset : String) (cpus : Int) : List Rule :=
  (((cpuset.splitOn ",").map Text.trim).filter (!·.isEmpty)).flatMap (cpusetPartRules cpuset cpus)

theorem checkCpuset_eq (cpuset : String) (cpus : Int) :
    checkCpuset cpuset cpus = outcome (cpusetRules cpuset cpus) () := by
  unfold checkCpuset cpusetRules
  refine forM_outcome fun part _ => ?_
  unfold cpusetPartRules cpusetBounds
  -- a part whose bounds are not both numbers is refused, before any comparison
  cases Text.splitOnce part '-' with
  | none =>
    dsimp only
    cases parseI64? (Text.trim part) with
    | none => rfl
    | some a =>
      simp only [outcome_cons, outcome_nil, decide_eq_true_eq, gt_iff_lt, ge_iff_le]
      split_ifs <;> first | omega | rfl
  | some bounds =>
    dsimp only
    cases parseI64? (Text.trim bounds.1) with
    | none => rfl
    | some a =>
      cases parseI64? (Text.trim bounds.2) with
      | none => rfl
      | some b =>
        simp only [outcome_cons, outcome_nil, decide_eq_true_eq, gt_iff_lt, ge_iff_le]
        split_ifs <;> first | omega | rfl

/-- The CPU period a quota is measured against: the one given when it is positive, else the
default. -/
def effectivePeriod (hc : HostConfig) : Int :=
  match hc.cpuPeriod? with
  | some p => if p > 0 then p else defaultCpuPeriod
  | none => defaultCpuPeriod

/-- The host configuration with the default CPU period filled in, where a quota is given
without a positive period. -/
def withPeriod (hc : HostConfig) : HostConfig :=
  if hc.cpuQuota?.getD 0 > 0 then
    match hc.cpuPeriod? with
    | some p => if p > 0 then hc else hc.set "CpuPeriod" (Json.int defaultCpuPeriod)
    | none => hc.set "CpuPeriod" (Json.int defaultCpuPeriod)
  else hc

theorem get?_withPeriod (hc : HostConfig) {k : String} (hk : k ≠ "CpuPeriod") :
    (withPeriod hc).get? k = hc.get? k := by
  unfold withPeriod
  split
  · split
    · split
      · rfl
      · rw [HostConfig.get?_set, if_neg (Ne.symm hk)]
    · rw [HostConfig.get?_set, if_neg (Ne.symm hk)]
  · rfl

/-- The quota rules: a quota at least the minimum and, on a known host, not asking more CPUs
than it has. -/
def quotaRules (host : Option HostResources) (hc : HostConfig) : List Rule :=
  let quota := hc.cpuQuota?.getD 0
  let period := effectivePeriod hc
  ⟨decide ¬(0 < quota ∧ quota < minCpuQuota),
      s!"CPU quota {quota} is below the minimum of {minCpuQuota} (1ms)"⟩ ::
  (host.map fun r => (⟨decide ¬(0 < quota ∧ toFloat r.cpus < toFloat quota / toFloat period),
      s!"CPU quota/period implies {ratioText (toFloat quota) (toFloat period)} CPUs, host has {r.cpus}"⟩ :
        Rule)).toList

theorem checkQuota_eq (host : Option HostResources) (hc : HostConfig) :
    checkQuota host hc = outcome (quotaRules host hc) (withPeriod hc) := by
  unfold checkQuota quotaRules effectivePeriod withPeriod
  cases host <;> cases hc.cpuPeriod? <;>
    simp only [Option.map_none, Option.map_some, Option.toList_none, Option.toList_some,
      outcome_cons, outcome_nil, decide_eq_true_eq, gt_iff_lt, apply_ite Prod.fst,
      apply_ite Prod.snd] <;>
    split_ifs <;> first | omega | rfl | simp_all

/-- The nano-CPU rules: on a known host, not asking more CPUs than it has; and at least the
minimum. -/
def nanoRules (host : Option HostResources) (nano : Int) : List Rule :=
  (host.map fun r => (⟨decide ¬(0 < nano ∧ toFloat r.cpus < toFloat nano / 1e9),
      s!"NanoCpus requests {ratioText (toFloat nano) 1e9} CPUs, host has {r.cpus}"⟩ : Rule)).toList ++
  [⟨decide ¬(0 < nano ∧ nano < minNanoCpus),
      s!"NanoCpus {nano} is below the minimum of {minNanoCpus} (0.01 CPU)"⟩]

theorem checkNanoCpus_eq (host : Option HostResources) (nano : Int) :
    checkNanoCpus host nano = outcome (nanoRules host nano) () := by
  unfold checkNanoCpus nanoRules
  cases host <;>
    simp only [Option.map_none, Option.map_some, Option.toList_none, Option.toList_some,
      List.nil_append, List.cons_append, outcome_cons, outcome_nil, invalid_bind,
      decide_eq_true_eq, gt_iff_lt] <;>
    split_ifs <;> first | omega | rfl | simp_all

/-- The CPU rules: shares not negative, the quota's rules, the nano-CPUs' and, on a known
host, the CPU set's. -/
def cpuRules (host : Option HostResources) (hc : HostConfig) : List Rule :=
  let shares := hc.cpuShares?.getD 0
  ⟨decide ¬(shares < 0), s!"CPU shares cannot be negative: {shares}"⟩ ::
    quotaRules host hc ++ nanoRules host (hc.nanoCpus?.getD 0) ++
    match hc.cpusetCpus?, host with
    | some cpuset, some r => cpusetRules cpuset r.cpus
    | _, _ => []

theorem checkCpu_eq (host : Option HostResources) (hc : HostConfig) :
    checkCpu host hc = outcome (cpuRules host hc) (withPeriod hc) := by
  -- the quota fills in at most the period, which no later check reads
  have hnano : (withPeriod hc).nanoCpus? = hc.nanoCpus? := by
    simp only [HostConfig.nanoCpus?, HostConfig.int?,
      get?_withPeriod hc (show "NanoCpus" ≠ "CpuPeriod" by decide)]
  have hcpuset : (withPeriod hc).cpusetCpus? = hc.cpusetCpus? := by
    simp only [HostConfig.cpusetCpus?, HostConfig.str?,
      get?_withPeriod hc (show "CpusetCpus" ≠ "CpuPeriod" by decide)]
  unfold checkCpu cpuRules
  simp only [checkQuota_eq, checkNanoCpus_eq, outcome_bind (quotaRules host hc), hnano, hcpuset,
    invalid_bind]
  cases hc.cpusetCpus? <;> cases host <;>
    simp only [checkCpuset_eq, outcome_bind_pure, outcome_append, List.append_nil,
      List.cons_append, List.append_assoc, outcome_cons, decide_eq_true_eq] <;>
    split_ifs <;> rfl

/-- The process-limit rule: a set limit is not negative. -/
def pidsRules (limit : Option Int) : List Rule :=
  [⟨decide ¬(limit.getD 0 < 0), s!"PIDs limit cannot be negative: {limit.getD 0}"⟩]

theorem checkPidsLimit_eq (limit : Option Int) :
    checkPidsLimit limit = outcome (pidsRules limit) () := by
  unfold checkPidsLimit pidsRules
  cases limit <;> simp only [Option.getD_none, Option.getD_some, outcome_cons, outcome_nil,
    decide_eq_true_eq] <;> split_ifs <;> first | omega | rfl

/-- The rules of a resource limit: soft and hard limit (unset is 0) not negative, and the soft
one not above the hard one. -/
def ulimitRules (u : Option String × Option Int × Option Int) : List Rule :=
  let name := u.1.getD ""
  let soft := u.2.1.getD 0
  let hard := u.2.2.getD 0
  [⟨decide ¬(soft < 0 ∨ hard < 0), s!"Ulimit {name} cannot be negative"⟩,
    ⟨decide ¬(soft > hard), s!"Ulimit {name}: soft limit ({soft}) cannot exceed hard limit ({hard})"⟩]

theorem checkUlimits_eq (ulimits : List (Option String × Option Int × Option Int)) :
    checkUlimits ulimits = outcome (ulimits.flatMap ulimitRules) () := by
  unfold checkUlimits
  refine forM_outcome fun u _ => ?_
  obtain ⟨name, soft, hard⟩ := u
  simp only [ulimitRules, outcome_cons, outcome_nil, decide_eq_true_eq, Bool.or_eq_true,
    gt_iff_lt]
  split_ifs <;> first | omega | rfl

end Resources

namespace Mount

theorem get?_set (m : Mount) (k k' : String) (v : Json) :
    (m.set k v).get? k' = if k = k' then some v else m.get? k' := by
  split
  · rename_i heq
    subst heq
    simp [get?, set, Json.Fields.find?_set_self]
  · rename_i hne
    simp [get?, set, Json.Fields.find?_set_of_ne v m.fields hne]

end Mount

namespace Resources

/-- The kind a mount is checked as: the one written, a volume when none or an empty one is. -/
def mountKind (m : Mount) : String :=
  if (m.kind?.getD "").isEmpty then "volume" else m.kind?.getD ""

/-- The mount with its kind filled in where none or an empty one is written. -/
def settleMount (m : Mount) : Mount :=
  if (m.kind?.getD "").isEmpty then m.set "Type" (.string "volume") else m

/-- The rules of a mount: a known kind; a target, and not a system directory as written; a
source for a bind mount; and no negative size for a memory file system. -/
def mountRules (m : Mount) : List Rule :=
  let kind := mountKind m
  let target := m.target?.getD ""
  [⟨["bind", "volume", "tmpfs", "npipe"].contains kind, s!"Invalid mount type: {kind}"⟩,
    ⟨!target.isEmpty, "Mount target is required"⟩,
    ⟨!protectedMountTargets.contains target,
      s!"Mounting over system directory {target} is not allowed"⟩,
    ⟨!(kind == "bind" && (m.source?.getD "").isEmpty), s!"Bind mount to {target} requires a source"⟩,
    ⟨!(kind == "tmpfs" && decide (m.tmpfsSize?.getD 0 < 0)),
      s!"Tmpfs size cannot be negative: {m.tmpfsSize?.getD 0}"⟩]

theorem checkMount_eq (m : Mount) : checkMount m = outcome (mountRules m) (settleMount m) := by
  -- filling in the kind changes no field the later rules read
  have htype : ∀ k, k ≠ "Type" → (m.set "Type" (.string "volume")).get? k = m.get? k :=
    fun k hk => by rw [Mount.get?_set, if_neg (Ne.symm hk)]
  have htarget : (m.set "Type" (.string "volume")).target? = m.target? := by
    simp only [Mount.target?, htype "Target" (by decide)]
  have hsource : (m.set "Type" (.string "volume")).source? = m.source? := by
    simp only [Mount.source?, htype "Source" (by decide)]
  have htmpfs : (m.set "Type" (.string "volume")).tmpfsSize? = m.tmpfsSize? := by
    simp only [Mount.tmpfsSize?, htype "TmpfsOptions" (by decide)]
  -- a mount without a kind is a volume mount, which needs neither source nor size checked
  have hempty : "".isEmpty = true := rfl
  have hvolume : ["bind", "volume", "tmpfs", "npipe"].contains "volume" = true := by decide
  have hbind : ("volume" == "bind") = false := by decide
  have htmpfs' : ("volume" == "tmpfs") = false := by decide
  unfold checkMount mountRules mountKind settleMount
  rw [outcome_cons]
  simp only [outcome_cons_not, outcome_nil, Bool.and_eq_true, decide_eq_true_eq, ite_and]
  split
  rotate_right
  · rename_i k hk hkind
    have hk' : k.isEmpty = false := by simpa [String.isEmpty_iff] using hk
    simp only [hkind, Option.getD_some, hk', Bool.false_eq_true, if_false, pure_bind, invalid_bind]
    -- a memory file system without a size has nothing to check
    cases m.tmpfsSize? with
    | none => simp only [Option.getD_none, lt_self_iff_false, if_false, ite_self]; rfl
    | some size => rfl
  all_goals
    rename_i hkind
    simp only [hkind, Option.getD_none, Option.getD_some, hempty, if_true, pure_bind, htarget,
      hsource, htmpfs, hvolume, hbind, htmpfs', Bool.false_eq_true, if_false]
    rfl

/-- The rules of a bind's options: each option of its third part, when it has one, is known. -/
def bindOptionRules (bind : String) : List String → List Rule
  | options :: _ => (options.splitOn ",").flatMap fun option =>
      [⟨bindOptions.contains option, s!"Invalid bind option '{option}' in '{bind}'"⟩]
  | [] => []

/-- The rules of a bind `source:destination[:options]`: two parts at least, neither empty; the
destination not a system directory as written; and known options. -/
def bindRules (bind : String) : List Rule :=
  match bind.splitOn ":" with
  | source :: dest :: rest =>
    ⟨!(source.isEmpty || dest.isEmpty), s!"Bind '{bind}' requires both source and destination"⟩ ::
      ⟨!(protectedMountTargets.contains dest || protectedBindTargets.contains dest),
        s!"Mounting over system directory {dest} is not allowed"⟩ :: bindOptionRules bind rest
  | _ => [⟨false, s!"Invalid bind format '{bind}', expected source:destination[:options]"⟩]

theorem checkBind_eq (bind : String) : checkBind bind = outcome (bindRules bind) () := by
  unfold checkBind bindRules
  rcases bind.splitOn ":" with _ | ⟨source, _ | ⟨dest, rest⟩⟩
  · rfl
  · rfl
  · simp only [outcome_cons_not]
    split_ifs
    · rfl
    · rfl
    · cases rest with
      | nil => rfl
      | cons options _ => exact forM_outcome fun option _ => rfl

end Resources

namespace VmProps

open Resources

/-- The properties as accepted ones come back: the CPU period filled in where a quota needs it,
and every mount with its kind. -/
def settled (p : VmProps) : VmProps :=
  let hc := withPeriod p.hostConfig
  { p with hostConfig := match hc.mounts? with
      | some ms => hc.setMounts (ms.map settleMount)
      | none => hc }

/-- The rules the properties are checked against, in the order they are checked. -/
def rules (host : Option HostResources) (p : VmProps) : List Resources.Rule :=
  let hc := p.hostConfig
  memoryRules host hc ++ cpuRules host hc ++ pidsRules hc.pidsLimit? ++
    (hc.ulimits?.getD []).flatMap ulimitRules ++ (hc.mounts?.getD []).flatMap mountRules ++
    (hc.binds?.getD []).flatMap bindRules

theorem checkMounts_eq (ms : List Mount) :
    ms.mapM checkMount = outcome (ms.flatMap mountRules) (ms.map settleMount) := by
  rw [show checkMount = fun m => outcome (mountRules m) (settleMount m) from funext checkMount_eq]
  exact mapM_outcome ms mountRules settleMount

theorem checkBinds_eq (bs : List String) : bs.forM checkBind = outcome (bs.flatMap bindRules) () :=
  forM_outcome fun b _ => checkBind_eq b

theorem validate_eq_outcome (host : Option HostResources) (p : VmProps) :
    p.validate host = outcome (p.rules host) p.settled := by
  -- filling in the period and the mount kinds changes no setting a later check reads
  have hsame :
      ∀ k, k ≠ "CpuPeriod" → (withPeriod p.hostConfig).get? k = p.hostConfig.get? k :=
    fun k hk => get?_withPeriod p.hostConfig hk
  have hpids : (withPeriod p.hostConfig).pidsLimit? = p.hostConfig.pidsLimit? := by
    simp only [HostConfig.pidsLimit?, HostConfig.int?, hsame "PidsLimit" (by decide)]
  have hulimits : (withPeriod p.hostConfig).ulimits? = p.hostConfig.ulimits? := by
    simp only [HostConfig.ulimits?, hsame "Ulimits" (by decide)]
  have hmounts : (withPeriod p.hostConfig).mounts? = p.hostConfig.mounts? := by
    simp only [HostConfig.mounts?, hsame "Mounts" (by decide)]
  have hbinds : (withPeriod p.hostConfig).binds? = p.hostConfig.binds? := by
    simp only [HostConfig.binds?, HostConfig.strings?, hsame "Binds" (by decide)]
  have hbinds' : ∀ ms, ((withPeriod p.hostConfig).setMounts ms).binds? = p.hostConfig.binds? := by
    intro ms
    rw [← hbinds]
    simp only [HostConfig.binds?, HostConfig.strings?, HostConfig.setMounts, HostConfig.get?_set,
      show ("Mounts" = "Binds") = False by decide, if_false]
  unfold validate rules settled
  simp only [checkMemory_eq, checkCpu_eq, checkPidsLimit_eq, @outcome_bind HostConfig VmProps]
  simp only [hpids, hulimits, hmounts]
  cases p.hostConfig.ulimits? <;> cases p.hostConfig.mounts? <;> cases hb : p.hostConfig.binds? <;>
    simp only [hbinds, hbinds', hb, Option.getD_none, Option.getD_some, checkUlimits_eq,
      checkMounts_eq, checkBinds_eq, pure_bind, @outcome_bind (List Mount) VmProps,
      outcome_bind_pure, outcome_append, List.flatMap_nil, List.append_nil, List.append_assoc]

end VmProps

end ContainerCpi
