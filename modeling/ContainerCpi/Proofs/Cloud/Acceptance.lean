import ContainerCpi.Proofs.Cloud.Validation

/-!
# What the resource checks accept

Without the host's capacity the checks accept exactly the properties whose settings pass the
conditions of `Resources.Acceptable` (`VmProps.validate_without_capacity`): memory unset or at
least the minimum, a swap limit not below a set memory limit, shares not negative, a quota and
nano-CPUs unset or at least their minimum, a process limit not negative, resource limits
ordered, and every mount and bind well formed.  Accepted properties come back settled, and
refused ones fail with the message of the first rule they break, in the order the checks run.

System directories are compared as written, so a target `/etc/` is not `/etc`; a bind is read
as `source:destination` with options in a third part, and what follows a third `:` is not
looked at.

With the host's capacity known, what is accepted only grows with the capacity
(`VmProps.validate_monotone`): each rule against the host bounds the request by the host's
memory or CPUs, so a host with as much of both accepts the same properties, as does one of
unknown capacity, and all of them fill in the same settings.
-/

namespace ContainerCpi

namespace Resources

/-! ## The rules read as conditions -/

/-- A mount the checks accept: no kind, an empty or a known one; a target that is not a system
directory as written; a source for a bind mount; no negative size for a memory file system. -/
def MountAcceptable (m : Mount) : Prop :=
  m.kind?.getD "" ∈ ["", "bind", "volume", "tmpfs", "npipe"] ∧ m.target?.getD "" ≠ "" ∧
    m.target?.getD "" ∉ protectedMountTargets ∧
    (m.kind? = some "bind" → m.source?.getD "" ≠ "") ∧
    (m.kind? = some "tmpfs" → 0 ≤ m.tmpfsSize?.getD 0)

/-- A bind the checks accept: a source and a destination before the first two `:`, the
destination not a system directory as written, and every option of the third part known. -/
def BindAcceptable (bind : String) : Prop :=
  ∃ source dest rest, bind.splitOn ":" = source :: dest :: rest ∧
    source ≠ "" ∧ dest ≠ "" ∧ dest ∉ protectedMountTargets ∧ dest ∉ protectedBindTargets ∧
    ∀ options ∈ rest.head?, ∀ option ∈ options.splitOn ",", option ∈ bindOptions

/-- The settings the checks accept when the host's capacity is unknown; unset numbers count
as 0. -/
structure Acceptable (hc : HostConfig) : Prop where
  memory : hc.memory?.getD 0 = 0 ∨ minMemory ≤ hc.memory?.getD 0
  swap : ¬(0 < hc.memorySwap?.getD 0 ∧ 0 < hc.memory?.getD 0 ∧
    hc.memorySwap?.getD 0 < hc.memory?.getD 0)
  shares : 0 ≤ hc.cpuShares?.getD 0
  quota : hc.cpuQuota?.getD 0 ≤ 0 ∨ minCpuQuota ≤ hc.cpuQuota?.getD 0
  nanoCpus : hc.nanoCpus?.getD 0 ≤ 0 ∨ minNanoCpus ≤ hc.nanoCpus?.getD 0
  pidsLimit : 0 ≤ hc.pidsLimit?.getD 0
  ulimits : ∀ u ∈ hc.ulimits?.getD [], 0 ≤ u.2.1.getD 0 ∧ u.2.1.getD 0 ≤ u.2.2.getD 0
  mounts : ∀ m ∈ hc.mounts?.getD [], MountAcceptable m
  binds : ∀ b ∈ hc.binds?.getD [], BindAcceptable b

section Conditions

theorem all_holds_flatMap {α : Type} {l : List α} {f : α → List Rule} :
    (l.flatMap f).all Rule.holds = true ↔ ∀ x ∈ l, (f x).all Rule.holds = true := by
  rw [List.all_flatMap, List.all_eq_true]

variable (hc : HostConfig)

theorem memoryRules_none_hold :
    (memoryRules none hc).all Rule.holds = true ↔
      (hc.memory?.getD 0 = 0 ∨ minMemory ≤ hc.memory?.getD 0) ∧
        ¬(0 < hc.memorySwap?.getD 0 ∧ 0 < hc.memory?.getD 0 ∧
          hc.memorySwap?.getD 0 < hc.memory?.getD 0) := by
  have hmin : minMemory = 33554432 := rfl
  simp only [memoryRules, Option.map_none, Option.toList_none, List.append_nil, List.cons_append,
    List.nil_append, List.all_cons, List.all_nil, Bool.and_true, Bool.and_eq_true,
    decide_eq_true_eq]
  omega

theorem cpuRules_none_hold :
    (cpuRules none hc).all Rule.holds = true ↔
      0 ≤ hc.cpuShares?.getD 0 ∧
        (hc.cpuQuota?.getD 0 ≤ 0 ∨ minCpuQuota ≤ hc.cpuQuota?.getD 0) ∧
        (hc.nanoCpus?.getD 0 ≤ 0 ∨ minNanoCpus ≤ hc.nanoCpus?.getD 0) := by
  -- without the host the CPU set is not looked at
  unfold cpuRules
  cases hc.cpusetCpus? <;>
    simp only [quotaRules, nanoRules, Option.map_none, Option.toList_none, List.append_nil,
      List.cons_append, List.nil_append, List.all_cons, List.all_nil, Bool.and_true,
      Bool.and_eq_true, decide_eq_true_eq] <;>
    omega

theorem pidsRules_hold (limit : Option Int) :
    (pidsRules limit).all Rule.holds = true ↔ 0 ≤ limit.getD 0 := by
  simp only [pidsRules, List.all_cons, List.all_nil, Bool.and_true, decide_eq_true_eq]
  omega

theorem ulimitRules_hold (u : Option String × Option Int × Option Int) :
    (ulimitRules u).all Rule.holds = true ↔
      0 ≤ u.2.1.getD 0 ∧ u.2.1.getD 0 ≤ u.2.2.getD 0 := by
  simp only [ulimitRules, List.all_cons, List.all_nil, Bool.and_true, Bool.and_eq_true,
    decide_eq_true_eq]
  omega

theorem mountKind_eq_iff (m : Mount) {k : String} (hk : k ≠ "") (hv : k ≠ "volume") :
    mountKind m = k ↔ m.kind? = some k := by
  unfold mountKind
  cases m.kind? with
  | none =>
    simp only [Option.getD_none, String.isEmpty_iff, if_true, reduceCtorEq, iff_false]
    exact Ne.symm hv
  | some k' =>
    by_cases hk' : k' = ""
    · subst hk'
      simp only [Option.getD_some, String.isEmpty_iff, if_true, Option.some.injEq]
      exact ⟨fun h => absurd h.symm hv, fun h => absurd h.symm hk⟩
    · simp only [Option.getD_some, String.isEmpty_iff, hk', if_false, Option.some.injEq]

theorem mountKind_mem_iff (m : Mount) :
    mountKind m ∈ ["bind", "volume", "tmpfs", "npipe"] ↔
      m.kind?.getD "" ∈ ["", "bind", "volume", "tmpfs", "npipe"] := by
  unfold mountKind
  by_cases hk : m.kind?.getD "" = ""
  · simp only [String.isEmpty_iff, hk, if_true]
    decide
  · simp only [String.isEmpty_iff, hk, if_false, List.mem_cons, false_or]

theorem mountRules_hold (m : Mount) :
    (mountRules m).all Rule.holds = true ↔ MountAcceptable m := by
  have hbind := mountKind_eq_iff m (k := "bind") (by decide) (by decide)
  have htmpfs := mountKind_eq_iff m (k := "tmpfs") (by decide) (by decide)
  simp only [mountRules, MountAcceptable, List.all_cons, List.all_nil, Bool.and_true,
    Bool.and_eq_true, List.contains_eq_mem, decide_eq_true_eq, mountKind_mem_iff, Bool.not_eq_true',
    String.isEmpty_eq_false_iff, Bool.and_eq_false_imp, beq_iff_eq, hbind, htmpfs,
    decide_eq_false_iff_not, not_lt]

theorem bindOptionRules_hold (bind : String) (rest : List String) :
    (bindOptionRules bind rest).all Rule.holds = true ↔
      ∀ options ∈ rest.head?, ∀ option ∈ options.splitOn ",", option ∈ bindOptions := by
  cases rest with
  | nil =>
    simp only [bindOptionRules, List.all_nil, List.head?_nil, Option.mem_def, reduceCtorEq,
      false_implies, implies_true]
  | cons options _ =>
    simp only [bindOptionRules, List.all_flatMap, List.all_cons, List.all_nil, Bool.and_true,
      List.all_eq_true, List.contains_iff_mem, List.head?_cons, Option.mem_def,
      Option.some.injEq, forall_eq']

theorem bindRules_hold (bind : String) :
    (bindRules bind).all Rule.holds = true ↔ BindAcceptable bind := by
  unfold bindRules BindAcceptable
  -- fewer than two parts: the format rule fails, and no split into two parts exists
  rcases bind.splitOn ":" with _ | ⟨source, _ | ⟨dest, rest⟩⟩
  · simp only [List.all_cons, List.all_nil, Bool.and_true, Bool.false_eq_true,
      reduceCtorEq, false_and, exists_false]
  · simp only [List.all_cons, List.all_nil, Bool.and_true, Bool.false_eq_true,
      List.cons.injEq, reduceCtorEq, and_false, false_and, exists_false]
  · simp only [List.all_cons, Bool.and_eq_true, Bool.not_eq_true', Bool.or_eq_false_iff,
      String.isEmpty_eq_false_iff, bindOptionRules_hold, List.cons.injEq, and_assoc,
      exists_and_left, exists_eq_left', List.contains_eq_mem, decide_eq_false_iff_not]

end Conditions

/-! ## Monotone in the host's capacity -/

/-- `host'` has at least the capacity of `host`: as much memory and as many CPUs, also when
these are compared as doubles; a host of unknown capacity is above every other. -/
def CapacityLe : Option HostResources → Option HostResources → Prop
  | _, none => True
  | none, some _ => False
  | some H, some H' => H.totalMemory ≤ H'.totalMemory ∧ H.cpus ≤ H'.cpus ∧
      ∀ x : Float, toFloat H'.cpus < x → toFloat H.cpus < x

section Monotone

variable {host host' : Option HostResources}

theorem hostRules_mono (hle : CapacityLe host host') {f : HostResources → Rule}
    (hf : ∀ H H', CapacityLe (some H) (some H') → (f H).holds = true → (f H').holds = true)
    (h : (host.map f).toList.all Rule.holds = true) :
    (host'.map f).toList.all Rule.holds = true := by
  cases host' with
  | none => rfl
  | some H' =>
    cases host with
    | none => exact hle.elim
    | some H =>
      simp only [Option.map_some, Option.toList_some, List.all_cons, List.all_nil,
        Bool.and_true] at h ⊢
      exact hf H H' hle h

theorem memoryRules_mono (hle : CapacityLe host host') (hc : HostConfig)
    (h : (memoryRules host hc).all Rule.holds = true) :
    (memoryRules host' hc).all Rule.holds = true := by
  simp only [memoryRules, List.all_append, Bool.and_eq_true] at h ⊢
  refine ⟨⟨h.1.1, hostRules_mono hle ?_ h.1.2⟩, h.2⟩
  intro H H' hHH' hH
  have hmem : H.totalMemory ≤ H'.totalMemory := hHH'.1
  simp only [decide_eq_true_eq] at hH ⊢
  omega

theorem quotaRules_mono (hle : CapacityLe host host') (hc : HostConfig)
    (h : (quotaRules host hc).all Rule.holds = true) :
    (quotaRules host' hc).all Rule.holds = true := by
  simp only [quotaRules, List.all_cons, Bool.and_eq_true] at h ⊢
  refine ⟨h.1, hostRules_mono hle ?_ h.2⟩
  intro H H' hHH' hH
  simp only [decide_eq_true_eq] at hH ⊢
  -- more CPUs than the request asks of the larger host are more than of the smaller one
  exact fun hq => hH ⟨hq.1, hHH'.2.2 _ hq.2⟩

theorem nanoRules_mono (hle : CapacityLe host host') (nano : Int)
    (h : (nanoRules host nano).all Rule.holds = true) :
    (nanoRules host' nano).all Rule.holds = true := by
  simp only [nanoRules, List.all_append, Bool.and_eq_true] at h ⊢
  refine ⟨hostRules_mono hle ?_ h.1, h.2⟩
  intro H H' hHH' hH
  simp only [decide_eq_true_eq] at hH ⊢
  exact fun hn => hH ⟨hn.1, hHH'.2.2 _ hn.2⟩

theorem cpusetRules_mono {cpus cpus' : Int} (hcpus : cpus ≤ cpus') (cpuset : String)
    (h : (cpusetRules cpuset cpus).all Rule.holds = true) :
    (cpusetRules cpuset cpus').all Rule.holds = true := by
  simp only [cpusetRules, all_holds_flatMap] at h ⊢
  intro part hpart
  have hp := h part hpart
  revert hp
  unfold cpusetPartRules
  cases parseI64? (Text.trim (cpusetBounds part).1) <;>
    cases parseI64? (Text.trim (cpusetBounds part).2) <;>
    simp only [List.all_cons, List.all_nil, Bool.and_true, Bool.and_eq_true, decide_eq_true_eq,
      imp_self]
  omega

theorem cpuRules_mono (hle : CapacityLe host host') (hc : HostConfig)
    (h : (cpuRules host hc).all Rule.holds = true) :
    (cpuRules host' hc).all Rule.holds = true := by
  unfold cpuRules at h ⊢
  simp only [List.all_cons, List.all_append, Bool.and_eq_true] at h ⊢
  obtain ⟨⟨⟨hshares, hquota⟩, hnano⟩, hset⟩ := h
  refine ⟨⟨⟨hshares, quotaRules_mono hle hc hquota⟩, nanoRules_mono hle _ hnano⟩, ?_⟩
  -- the CPU set is checked only on a known host, against its CPU count
  revert hset
  cases hc.cpusetCpus? with
  | none => exact fun _ => rfl
  | some cpuset =>
    cases host' with
    | none => exact fun _ => rfl
    | some H' =>
      cases host with
      | none => exact hle.elim
      | some H => exact cpusetRules_mono hle.2.1 cpuset

end Monotone

end Resources

namespace VmProps

open Resources

theorem rules_none_hold (p : VmProps) :
    (p.rules none).all Resources.Rule.holds = true ↔ Acceptable p.hostConfig := by
  unfold rules
  simp only [List.all_append, Bool.and_eq_true, memoryRules_none_hold, cpuRules_none_hold,
    pidsRules_hold, all_holds_flatMap, ulimitRules_hold, mountRules_hold, bindRules_hold]
  constructor
  · rintro ⟨⟨⟨⟨⟨⟨hmem, hswap⟩, hshares, hquota, hnano⟩, hpids⟩, hulimits⟩, hmounts⟩,
      hbinds⟩
    exact ⟨hmem, hswap, hshares, hquota, hnano, hpids, hulimits, hmounts, hbinds⟩
  · rintro ⟨hmem, hswap, hshares, hquota, hnano, hpids, hulimits, hmounts, hbinds⟩
    exact ⟨⟨⟨⟨⟨⟨hmem, hswap⟩, hshares, hquota, hnano⟩, hpids⟩, hulimits⟩, hmounts⟩,
      hbinds⟩

theorem rules_mono {host host' : Option HostResources} (hle : CapacityLe host host') (p : VmProps)
    (h : (p.rules host).all Resources.Rule.holds = true) :
    (p.rules host').all Resources.Rule.holds = true := by
  unfold rules at h ⊢
  simp only [List.all_append, Bool.and_eq_true] at h ⊢
  obtain ⟨⟨⟨⟨⟨hmem, hcpu⟩, hpids⟩, hulimits⟩, hmounts⟩, hbinds⟩ := h
  exact ⟨⟨⟨⟨⟨memoryRules_mono hle _ hmem, cpuRules_mono hle _ hcpu⟩, hpids⟩, hulimits⟩,
    hmounts⟩, hbinds⟩

theorem validate_mono {host host' : Option HostResources} (hle : CapacityLe host host')
    {p p' : VmProps} (h : p.validate host = .ok p') : p.validate host' = .ok p' := by
  rw [validate_eq_outcome, outcome_eq_ok_iff] at h ⊢
  exact ⟨rules_mono hle p h.1, h.2⟩

/-- Properties accepted on a host are accepted, settled the same way, on a host with as much
memory and as many CPUs (also as doubles), and without the host's capacity. -/
theorem validate_monotone {H H' : HostResources} {p p' : VmProps}
    (hmem : H.totalMemory ≤ H'.totalMemory) (hcpus : H.cpus ≤ H'.cpus)
    (hfloat : ∀ x : Float, toFloat H'.cpus < x → toFloat H.cpus < x)
    (h : p.validate (some H) = .ok p') :
    p.validate (some H') = .ok p' ∧ p.validate none = .ok p' :=
  ⟨validate_mono (show CapacityLe (some H) (some H') from ⟨hmem, hcpus, hfloat⟩) h,
    validate_mono (show CapacityLe (some H) none from trivial) h⟩

/-- Properties asking for 64MiB of memory. -/
def memoryRequest : VmProps :=
  { VmProps.empty with hostConfig := ⟨[("Memory", Json.int 67108864)]⟩ }

theorem memory_request_grows_with_host :
    let H : HostResources := ⟨8589934592, 4⟩
    let H' : HostResources := ⟨17179869184, 4⟩
    (H.totalMemory ≤ H'.totalMemory ∧ H.cpus ≤ H'.cpus ∧
      (∀ x : Float, toFloat H'.cpus < x → toFloat H.cpus < x) ∧
      memoryRequest.validate (some H) = .ok memoryRequest.settled) ∧
    memoryRequest.validate (some H') = .ok memoryRequest.settled ∧
      memoryRequest.validate none = .ok memoryRequest.settled := by
  -- the hosts are written out, so that the kernel evaluates the checks on closed terms
  dsimp only
  have hsmall : memoryRequest.validate (some ⟨8589934592, 4⟩) = .ok memoryRequest.settled := by
    rw [validate_eq_outcome, outcome_eq_ok_iff]
    exact ⟨by decide +kernel, rfl⟩
  exact ⟨⟨by decide, by decide, fun _ h => h, hsmall⟩,
    @validate_monotone ⟨8589934592, 4⟩ ⟨17179869184, 4⟩ memoryRequest memoryRequest.settled
      (by decide) (by decide) (fun _ h => h) hsmall⟩

/-- Without the host's capacity the properties fail with the first rule they break, and are
accepted, settled, exactly when their settings are acceptable. -/
theorem validate_without_capacity (p : VmProps) :
    p.validate none = outcome (p.rules none) p.settled ∧
      (p.validate none = .ok p.settled ↔ Acceptable p.hostConfig) := by
  refine ⟨validate_eq_outcome none p, ?_⟩
  rw [validate_eq_outcome, outcome_eq_ok_iff, rules_none_hold]
  exact ⟨fun h => h.1, fun h => ⟨h, rfl⟩⟩

/-- Properties with one volume mounted onto `/etc/`, the system directory `/etc` written with a
trailing slash. -/
def etcSlashMount : VmProps :=
  { VmProps.empty with
    hostConfig := ⟨[("Mounts", .array [.object [("Target", .string "/etc/")]])]⟩ }

theorem etc_slash_mount_accepted : (etcSlashMount.validate none).isOk = true := by
  decide +kernel

end VmProps

end ContainerCpi
