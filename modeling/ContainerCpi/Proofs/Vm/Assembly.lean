import ContainerCpi.Cloud.Create
import ContainerCpi.Proofs.Archive.RoundTrip

/-!
# How a VM's container is assembled

A creation assembles its VM's container from four things: the cloud properties the caller
gave, the init system it chose, the setup of the VM's networks and the node the VM's first
disk pins it to.

Settling the properties (`VmCreation.settle`) strips the socket scheme from bind sources,
fills in a CPU period and the kinds of mounts, and keeps everything else: the binds, the
target platform and the init system of settled properties are those the caller asked for,
up to the socket scheme (`VmProps.Settled`).  The checks are do-blocks in `CpiResult`;
`Resources.Yields P r` says that every value `r` succeeds with satisfies `P`, and the
proofs take the blocks apart branch by branch, as those of their failures do.

From settled properties the container gets the stemcell's image; the binds the caller asked
for that are not over the scratch directory, then the ephemeral volume's; privileges, all
ports published and seccomp unconfined, whatever the caller asked; the rescheduling marker
and the node constraint as its environment; the init system's entrypoint and command; and
the platform in a label (`VmCreation.Assembled`, `VmCreation.assembled`).
-/

namespace ContainerCpi

/-! ## Fields of records -/

namespace Json.Fields

theorem find?_set_of_ne {k k' : String} (v : Json) (fs : List (String × Json)) (hne : k ≠ k') :
    (set k v fs).find? (·.1 == k') = fs.find? (·.1 == k') := by
  induction fs with
  | nil => simp [set, hne]
  | cons p rest ih =>
    obtain ⟨k'', v''⟩ := p
    by_cases h : k = k''
    · subst h
      simp [set, hne]
    · rw [set, if_neg h, List.find?_cons, List.find?_cons, ih]

end Json.Fields

namespace HostConfig

theorem get?_set (h : HostConfig) (k k' : String) (v : Json) :
    (h.set k v).get? k' = if k = k' then some v else h.get? k' := by
  split
  · rename_i heq
    subst heq
    simp [get?, set, Json.Fields.find?_set_self]
  · rename_i hne
    simp [get?, set, Json.Fields.find?_set_of_ne v h.fields hne]

theorem binds?_set_of_ne (h : HostConfig) {k : String} (v : Json) (hk : k ≠ "Binds") :
    (h.set k v).binds? = h.binds? := by
  simp [binds?, strings?, get?_set, hk]

@[simp] theorem binds?_setMounts (h : HostConfig) (ms : List Mount) :
    (h.setMounts ms).binds? = h.binds? :=
  h.binds?_set_of_ne _ (by decide)

end HostConfig

namespace ContainerConfig

theorem get?_set (c : ContainerConfig) (k k' : String) (v : Json) :
    (c.set k v).get? k' = if k = k' then some v else c.get? k' := by
  split
  · rename_i heq
    subst heq
    simp [get?, set, Json.Fields.find?_set_self]
  · rename_i hne
    simp [get?, set, Json.Fields.find?_set_of_ne v c.fields hne]

end ContainerConfig

/-! ## Settling the properties -/

namespace Resources

variable {α β : Type}

/-- Every value `r` succeeds with satisfies `P`. -/
def Yields (P : α → Prop) (r : CpiResult α) : Prop := ∀ a, r = .ok a → P a

namespace Yields

variable {P : α → Prop}

theorem pure {a : α} (h : P a) : Yields P (pure a : CpiResult α) := fun _ hr => by
  cases hr
  exact h

theorem invalid (m : String) : Yields P (invalid m : CpiResult α) := fun _ hr => by cases hr

theorem ite {c : Prop} [Decidable c] {a b : CpiResult α} (ha : Yields P a) (hb : Yields P b) :
    Yields P (if c then a else b) := by
  split
  · exact ha
  · exact hb

theorem seq {r : CpiResult α} {f : α → CpiResult β} {P : β → Prop}
    (hf : ∀ a, Yields P (f a)) : Yields P (r >>= f) := fun b hb => by
  obtain ⟨a, -, ha⟩ := Except.bind_eq_ok hb
  exact hf a b ha

theorem bind {Q : α → Prop} {r : CpiResult α} {f : α → CpiResult β} {P : β → Prop}
    (hr : Yields Q r) (hf : ∀ a, Q a → Yields P (f a)) : Yields P (r >>= f) := fun b hb => by
  obtain ⟨a, ha, hfa⟩ := Except.bind_eq_ok hb
  exact hf a (hr a ha) b hfa

theorem pure_bind {a : α} {f : α → CpiResult β} {P : β → Prop} (h : Yields P (f a)) :
    Yields P (Pure.pure a >>= f) := h

end Yields

theorem checkCpu_binds? (host : Option HostResources) (hc : HostConfig) :
    Yields (fun hc' => hc'.binds? = hc.binds?) (checkCpu host hc) := by
  unfold checkCpu checkQuota
  dsimp only
  repeat' first
    | with_reducible refine Yields.ite ?_ ?_
    | with_reducible refine Yields.pure ?_
    | with_reducible exact Yields.invalid _
    | refine Yields.bind (Q := fun hc' : HostConfig => hc'.binds? = hc.binds?) ?_ fun _ _ => ?_
    | with_reducible refine Yields.seq fun _ => ?_
    | split
  -- what is left is the value returned: the configuration checked, perhaps with a period
  all_goals first
    | assumption
    | exact HostConfig.binds?_set_of_ne _ _ (by decide)
    | rfl

theorem validate_binds? (host : Option HostResources) (p : VmProps) :
    Yields (fun p' => p'.hostConfig.binds? = p.hostConfig.binds? ∧
      p' = { p with hostConfig := p'.hostConfig }) (p.validate host) := by
  unfold VmProps.validate
  dsimp only
  refine Yields.seq fun _ => Yields.bind (checkCpu_binds? host p.hostConfig) fun hc hcpu => ?_
  -- after the CPU checks there are only checks, and the mounts with their kinds filled in
  repeat' first
    | with_reducible refine Yields.pure_bind ?_
    | with_reducible refine Yields.seq fun _ => ?_
    | exact Yields.pure ⟨hcpu, rfl⟩
    | exact Yields.pure ⟨(HostConfig.binds?_setMounts _ _).trans hcpu, rfl⟩
    | split

end Resources

namespace VmProps

open Resources

/-- Properties `p` settled from the properties `p₀` a caller gave: the same bind mounts with
the socket scheme stripped from them, and the same target platform and init system. -/
structure Settled (p₀ p : VmProps) : Prop where
  binds : p.hostConfig.binds? = p₀.hostConfig.binds?.map (·.map stripScheme)
  os : p.os = p₀.os
  architecture : p.architecture = p₀.architecture
  initSystem : p.initSystem = p₀.initSystem

theorem Settled.platform {p₀ p : VmProps} (hs : Settled p₀ p) : p.platform = p₀.platform := by
  simp only [VmProps.platform, hs.os, hs.architecture]

theorem cleanMounts_settled (p : VmProps) : Yields (Settled p) p.cleanMounts := by
  unfold cleanMounts
  dsimp only
  repeat' first
    | with_reducible refine Yields.pure_bind ?_
    | with_reducible refine Yields.seq fun _ => ?_
    | refine Yields.pure ⟨?_, rfl, rfl, rfl⟩
    | split
  all_goals simp_all

theorem Settled.validate {p₀ p : VmProps} (hs : Settled p₀ p) (host : Option HostResources) :
    Yields (Settled p₀) (p.validate host) := fun p' hp' => by
  obtain ⟨hbinds, hp⟩ := validate_binds? host p p' hp'
  rw [hp]
  exact ⟨hbinds.trans hs.binds, hs.os, hs.architecture, hs.initSystem⟩

end VmProps

/-! ## The container's parts -/

namespace ContainerSpec

theorem recordPlatform_get? (s : ContainerSpec) {k : String} (hk : k ≠ "Labels") :
    s.recordPlatform.config.get? k = s.config.get? k := by
  simp [recordPlatform, ContainerConfig.get?_set, Ne.symm hk]

theorem recordPlatform_labels? (s : ContainerSpec) (h : s.config.get? "Labels" = none) :
    s.recordPlatform.config.labels? = some [(Platform.label, s.platform.render)] := by
  simp [recordPlatform, ContainerConfig.labels?, ContainerConfig.get?_set, h, Json.setField,
    Json.Fields.insert, Json.stringMap?, Json.fields?, Json.str?]

end ContainerSpec

namespace VmCreation

/-- The binds a caller asked for that a VM keeps: the socket scheme stripped, and those over
the scratch directory dropped. -/
def keptBinds (props : VmProps) : List String :=
  ((props.hostConfig.binds?.getD []).map VmProps.stripScheme).filter (!targetsScratch ·)

/-- The bind of a VM's ephemeral volume over the scratch directory. -/
def ephemeralBind (vm : VmId) : String := vm.ephemeralDisk.value ++ ":" ++ Paths.ephemeralMount

theorem hostConfigFor_binds? (props : VmProps) (vm : VmId) :
    (hostConfigFor props vm).binds? =
      some ((props.hostConfig.binds?.getD []).filter (!targetsScratch ·) ++ [ephemeralBind vm]) := by
  unfold hostConfigFor
  dsimp only
  split <;> simp [HostConfig.setBinds, HostConfig.binds?, HostConfig.strings?, HostConfig.get?_set,
    ephemeralBind]

theorem hostConfigFor_forced (props : VmProps) (vm : VmId) :
    (hostConfigFor props vm).get? "Privileged" = some (.bool true) ∧
    (hostConfigFor props vm).get? "PublishAllPorts" = some (.bool true) ∧
    unconfinedSeccomp ∈ (hostConfigFor props vm).securityOpt?.getD [] := by
  have hadded : ∀ l : List String,
      unconfinedSeccomp ∈ (if l.contains unconfinedSeccomp then l else l ++ [unconfinedSeccomp]) :=
    fun l => by
      split
      · rename_i hl
        exact List.contains_iff_mem.1 hl
      · exact List.mem_append_right _ (List.mem_singleton_self _)
  unfold hostConfigFor
  dsimp only
  split <;> refine ⟨by simp [HostConfig.setBinds, HostConfig.get?_set],
    by simp [HostConfig.setBinds, HostConfig.get?_set], ?_⟩ <;>
    simpa [HostConfig.securityOpt?, HostConfig.strings?, HostConfig.setBinds, HostConfig.get?_set]
      using hadded _

theorem configFor_get? (stemcell : StemcellId) (env ports : List String) (init : InitSystem)
    (script : String) :
    (configFor stemcell env ports init script).get? "Env" = some (Json.strings env) ∧
    (configFor stemcell env ports init script).get? "Cmd" = (init.command script).map Json.strings ∧
    (configFor stemcell env ports init script).get? "Image" = some (.string stemcell.value) ∧
    (configFor stemcell env ports init script).get? "Entrypoint" =
      init.entrypoint.map Json.strings ∧
    (configFor stemcell env ports init script).get? "Labels" = none := by
  cases init <;> by_cases hports : ports.isEmpty <;>
    simp [configFor, ContainerConfig.get?, hports, InitSystem.command, InitSystem.entrypoint]

/-- The container of VM `vm` as a creation assembles it from the cloud properties `props` the
caller gave, the init system `init`, the network setup `setup` and the node `node` the VM is
pinned to: the stemcell's image; the binds the caller asked for that are not over the scratch
directory, then the ephemeral volume's; privileged, publishing all ports, with seccomp
unconfined; the rescheduling marker, then the node constraint; the init system's entrypoint
and command; the platform in its label; and the setup's endpoints. -/
structure Assembled (stemcell : StemcellId) (props : VmProps) (init : InitSystem)
    (setup : NetworkSetup) (node : Option String) (vm : VmId) (spec : ContainerSpec) : Prop where
  image : spec.image? = some stemcell.value
  binds : spec.binds = keptBinds props ++ [ephemeralBind vm]
  privileged : spec.hostConfig.bind (·.get? "Privileged") = some (.bool true)
  publishAllPorts : spec.hostConfig.bind (·.get? "PublishAllPorts") = some (.bool true)
  seccomp : unconfinedSeccomp ∈ (spec.hostConfig.bind HostConfig.securityOpt?).getD []
  env : spec.env = rescheduleMarker :: node.toList.map (Vm.nodeConstraintPrefix ++ ·)
  entrypoint : spec.config.entrypoint? = init.entrypoint
  cmd : spec.config.cmd? = init.command setup.initScript
  label : spec.config.labels? = some [(Platform.label, props.platform.render)]
  endpoints : spec.endpoints = setup.endpoints

/-- The container a design makes from properties settled from `props₀`, once it has joined
all of the setup's endpoints, is assembled from `props₀`. -/
theorem assembled {props₀ props : VmProps} (hs : props₀.Settled props) (stemcell : StemcellId)
    (init : InitSystem) (setup : NetworkSetup) (node : Option String) (vm : VmId)
    (primary : List (String × EndpointSettings)) :
    Assembled stemcell props₀ init setup node vm
      { ({ config := configFor stemcell (rescheduleMarker :: node.toList.map (Vm.nodeConstraintPrefix ++ ·))
              props.exposedPorts init setup.initScript
           hostConfig := some (hostConfigFor props vm)
           endpoints := primary
           platform := props.platform
           node := none } : ContainerSpec).recordPlatform with endpoints := setup.endpoints } := by
  obtain ⟨henv, hcmd, himage, hentry, hlabels⟩ :=
    configFor_get? stemcell (rescheduleMarker :: node.toList.map (Vm.nodeConstraintPrefix ++ ·))
      props.exposedPorts init setup.initScript
  obtain ⟨hprivileged, hports, hseccomp⟩ := hostConfigFor_forced props vm
  -- recording the platform changes the labels alone
  have hget : ∀ k, k ≠ "Labels" → (ContainerSpec.recordPlatform
      { config := configFor stemcell (rescheduleMarker :: node.toList.map (Vm.nodeConstraintPrefix ++ ·))
          props.exposedPorts init setup.initScript
        hostConfig := some (hostConfigFor props vm), endpoints := primary,
        platform := props.platform, node := none }).config.get? k =
      (configFor stemcell (rescheduleMarker :: node.toList.map (Vm.nodeConstraintPrefix ++ ·))
        props.exposedPorts init setup.initScript).get? k :=
    fun k hk => ContainerSpec.recordPlatform_get? _ hk
  refine ⟨?image, ?binds, hprivileged, hports, hseccomp, ?env, ?entrypoint, ?cmd, ?label, rfl⟩
  case image =>
    simp [ContainerSpec.image?, ContainerConfig.image?, hget "Image" (by decide), himage, Json.str?]
  case binds =>
    cases hb : props₀.hostConfig.binds? <;>
      simp [ContainerSpec.binds, ContainerSpec.recordPlatform, hostConfigFor_binds?, hs.binds,
        keptBinds, hb]
  case env =>
    simp [ContainerSpec.env, ContainerConfig.env?, hget "Env" (by decide), henv]
  case entrypoint =>
    simp [ContainerConfig.entrypoint?, hget "Entrypoint" (by decide), hentry]
    cases init.entrypoint <;> simp
  case cmd =>
    simp [ContainerConfig.cmd?, hget "Cmd" (by decide), hcmd]
    cases init.command setup.initScript <;> simp
  case label =>
    rw [ContainerSpec.recordPlatform_labels? _ hlabels, hs.platform]

end VmCreation

end ContainerCpi
