import ContainerCpi.Proofs.Cloud.Copies
import ContainerCpi.Proofs.Vm.DiskChange

/-!
# The agent's state files across a disk change

A disk change replaces the VM's container, and with it the files of its writable layer.  The
agent keeps two of them that it needs back: its pending settings update and its DNS records
(`stateFiles`).  The change saves them before it removes the old container, each when it is
there and not empty (`Preserved.ofFiles`), and writes them into the successor after the
agent environment, ignoring every failure of that restore.

`changeDisk_keeps_state_files` says what follows.  Once the rebuild and the write of the
agent environment have succeeded, the change succeeds, whatever the restore meets.  When
moreover every step of the restore succeeds (`restoreSteps`) and the files have fewer than
`2 ^ 63` bytes, each state file of the old container is in the new one with the same bytes
if it was not empty, and missing otherwise;
and the restore runs, after the commands before it, the `mkdir -p` of each file's upload,
with the DNS records' directory made and given to `root:vcap` first and the records given
to the group `vcap` after their upload (`restoreCommands`).
-/

namespace ContainerCpi

open MemoryHost

namespace Vm

/-- The agent's state files a disk change carries over. -/
def stateFiles : List String := [Paths.updateSettings, Paths.dnsRecords]

/-- The state files as a container holds them, each when it is there and not empty. -/
def Preserved.ofFiles (s : MemoryEngine) (vm : VmId) : Preserved :=
  ⟨(s.file? vm.value Paths.updateSettings).filter (!·.isEmpty),
    (s.file? vm.value Paths.dnsRecords).filter (!·.isEmpty)⟩

/-- Each state file of the VM has fewer than `2 ^ 63` bytes, well inside what an archive
carries. -/
def StateFilesFit (s : MemoryEngine) (vm : VmId) : Prop :=
  ∀ path ∈ stateFiles, ∀ contents ∈ s.file? vm.value path, contents.length < 2 ^ 63

instance (s : MemoryEngine) (vm : VmId) : Decidable (StateFilesFit s vm) :=
  inferInstanceAs (Decidable (∀ path ∈ stateFiles, ∀ contents ∈ s.file? vm.value path,
    contents.length < 2 ^ 63))

/-- The commands restoring saved state files runs: the upload's `mkdir -p` of the settings'
directory; then for the DNS records the directory made and owned by `root:vcap`, the
upload's own `mkdir -p`, and the records given to the group `vcap`. -/
def restoreCommands (saved : Preserved) : List (List String) :=
  (if saved.updateSettings.isSome then [["mkdir", "-p", "/var/vcap/bosh"]] else []) ++
    if saved.dnsRecords.isSome then
      [["mkdir", "-p", "/var/vcap/instance/dns"], ["chown", "root:vcap", "/var/vcap/instance/dns"],
        ["mkdir", "-p", "/var/vcap/instance/dns"], ["chgrp", "vcap", Paths.dnsRecords]]
    else []

variable {m : Type → Type} [Monad m] (b : Backend m)

/-- Writing back the saved settings update, with no failure ignored. -/
def restoreSettings (vm : VmId) (saved : Preserved) : CloudM m Unit :=
  match saved.updateSettings with
  | some c => (FileTransfer.forVm vm).upload b Paths.updateSettings c
  | none => pure ()

/-- Writing back the saved DNS records, with no failure ignored. -/
def restoreRecords (vm : VmId) (saved : Preserved) : CloudM m Unit :=
  match saved.dnsRecords with
  | some c => restoreDns b vm c
  | none => pure ()

/-- Restoring saved state files with no failure ignored: each step of `restore`, in order. -/
def restoreSteps (vm : VmId) (saved : Preserved) : CloudM m Unit := do
  restoreSettings b vm saved
  restoreRecords b vm saved

theorem Preserved.ofFiles_eq_of_objects {s s' : MemoryEngine} (h : s'.objects = s.objects)
    (vm : VmId) : Preserved.ofFiles s' vm = Preserved.ofFiles s vm := by
  simp only [Preserved.ofFiles, MemoryEngine.file?_eq_of_objects h]

theorem StateFilesFit.of_objects {s s' : MemoryEngine} {vm : VmId} (hfit : StateFilesFit s vm)
    (h : s'.objects = s.objects) : StateFilesFit s' vm := by
  intro path hpath contents hcontents
  rw [MemoryEngine.file?_eq_of_objects h] at hcontents
  exact hfit path hpath contents hcontents

/-! ## The paths -/

theorem transfersAs_updateSettings :
    FileTransfer.TransfersAs Paths.updateSettings "/var/vcap/bosh" "update_settings.json" := by
  decide +kernel

theorem transfersAs_dnsRecords :
    FileTransfer.TransfersAs Paths.dnsRecords "/var/vcap/instance/dns" "records.json" := by
  decide +kernel

theorem transfersAs_agentEnv :
    FileTransfer.TransfersAs Paths.agentEnv "/var/vcap/bosh" "warden-cpi-agent-env.json" := by
  decide +kernel

theorem dnsRecords_dir :
    ((Text.splitLast Paths.dnsRecords '/').map (·.1)).getD "/" = "/var/vcap/instance/dns" := by
  decide +kernel

/-! ## Saving -/

theorem downloadOptional_of_queued {h : MemoryHost} {vm : VmId} {path dir name : String}
    (ht : FileTransfer.TransfersAs path dir name) (hq : h.engine.queued .copyFrom = [])
    (hfit : ∀ contents ∈ h.engine.file? vm.value path, contents.length < 2 ^ 63) :
    (runOp (downloadOptional backend vm path) h).1 =
      .ok ((h.engine.file? vm.value path).filter (!·.isEmpty)) := by
  unfold downloadOptional
  rw [runOp_tryCatch, runOp_bind]
  rcases hfile : h.engine.file? vm.value path with _ | contents
  · have hmissing := FileTransfer.download_of_missing (FileTransfer.forVm vm) hq hfile
    rcases hrun : runOp ((FileTransfer.forVm vm).download backend path) h with ⟨r, h'⟩
    rw [hrun] at hmissing
    cases hmissing
    rfl
  · have hread := FileTransfer.download_of_file (FileTransfer.forVm vm) ht hq hfile
      (hfit contents hfile)
    rcases hrun : runOp ((FileTransfer.forVm vm).download backend path) h with ⟨r, h'⟩
    rw [hrun] at hread
    cases hread
    simp only [runOp_pure, Option.filter_some]
    cases contents.isEmpty <;> rfl

/-- The state files saved when no failure is queued for copies are the container's. -/
theorem preserve_of_queued {h : MemoryHost} {vm : VmId} (hq : h.engine.queued .copyFrom = [])
    (hfit : StateFilesFit h.engine vm) :
    (runOp (preserve backend vm) h).1 = .ok (Preserved.ofFiles h.engine vm) := by
  unfold preserve
  rw [runOp_bind]
  rcases hsettings : runOp (downloadOptional backend vm Paths.updateSettings) h with ⟨r, h₁⟩
  have hr := downloadOptional_of_queued transfersAs_updateSettings hq
    (hfit _ (List.mem_cons_self ..))
  rw [hsettings] at hr
  cases hr
  dsimp only
  -- the first download changed no file and left no failure queued for the second
  have hsame : h₁.engine.objects = h.engine.objects :=
    (downloadOptional_onlyCalls vm _).objects_eq_of_run hsettings
  have hq₁ : h₁.engine.queued .copyFrom = [] := by
    have := (downloadOptional_onlyCalls vm Paths.updateSettings).queued_nil hq
    rwa [hsettings] at this
  have hfit₁ : ∀ contents ∈ h₁.engine.file? vm.value Paths.dnsRecords, contents.length < 2 ^ 63 := by
    rw [MemoryEngine.file?_eq_of_objects hsame]
    exact hfit _ (List.mem_cons_of_mem _ (List.mem_singleton_self _))
  rw [runOp_bind]
  rcases hdns : runOp (downloadOptional backend vm Paths.dnsRecords) h₁ with ⟨r, h₂⟩
  have hr := downloadOptional_of_queued transfersAs_dnsRecords hq₁ hfit₁
  rw [hdns] at hr
  cases hr
  rw [MemoryEngine.file?_eq_of_objects hsame]
  rfl

/-- A disk change saves the state files of the container it finds. -/
theorem teardown_saves_state_files {refusal : String} {change : BindChange} {vm : VmId}
    {disk : DiskId} {h h' : MemoryHost} {env : AgentEnv} {saved : Preserved} {spec : ContainerSpec}
    (hdown : runOp (teardown backend refusal change vm disk) h = (.ok (env, saved, spec), h'))
    (hfit : StateFilesFit h.engine vm) : saved = Preserved.ofFiles h.engine vm := by
  unfold teardown at hdown
  obtain ⟨⟨_, found, _⟩, _, hsurvey, hrest⟩ := runOp_bind_eq_ok hdown
  obtain ⟨_, _, -, hpure⟩ := runOp_bind_eq_ok hrest
  cases hpure
  unfold survey at hsurvey
  dsimp only at hsurvey
  split at hsurvey
  · rw [runOp_bind_of_error (runOp_throw _ _)] at hsurvey
    cases hsurvey
  obtain ⟨_, h₁, hexists, hrun⟩ := runOp_bind_eq_ok hsurvey
  obtain ⟨_, h₂, hfetch, hrun⟩ := runOp_bind_eq_ok hrun
  obtain ⟨_, _, hsaved, hrun⟩ := runOp_bind_eq_ok hrun
  obtain ⟨_, _, -, hpure⟩ := runOp_bind_eq_ok hrun
  cases hpure
  -- the agent environment was read, so no failure was queued for copies then, nor after
  have hq : h₂.engine.queued .copyFrom = [] := by
    have := (FileTransfer.fetchAgentEnv_onlyCalls (FileTransfer.forVm vm)).queued_nil
      (FileTransfer.queued_copyFrom_of_fetchAgentEnv _ hfetch)
    rwa [hfetch] at this
  have hsame : h₂.engine.objects = h.engine.objects :=
    ((FileTransfer.fetchAgentEnv_onlyCalls (FileTransfer.forVm vm)).objects_eq_of_run hfetch).trans
      ((ensureExists_onlyCalls vm).objects_eq_of_run hexists)
  have hpreserve := preserve_of_queued hq (hfit.of_objects hsame)
  rw [hsaved, Preserved.ofFiles_eq_of_objects hsame] at hpreserve
  exact (Except.ok.inj hpreserve)

/-! ## Restoring -/

theorem runOp_tryCatch_of_ok {α : Type} {p : CloudM (StateM MemoryHost) α}
    {handler : CpiError → CloudM (StateM MemoryHost) α} {h h' : MemoryHost} {a : α}
    (hrun : runOp p h = (.ok a, h')) : runOp (tryCatch p handler) h = (.ok a, h') := by
  rw [runOp_tryCatch, hrun]

theorem runOp_restore (vm : VmId) (saved : Preserved) (h : MemoryHost) :
    runOp (restore backend vm saved) h =
      runOp (do
        tryCatch (restoreSettings backend vm saved) fun _ => pure ()
        tryCatch (restoreRecords backend vm saved) fun _ => pure ()) h := by
  rcases saved with ⟨_ | settings, _ | records⟩ <;> rfl

theorem restore_of_steps {vm : VmId} {saved : Preserved} {h h' : MemoryHost}
    (hrun : runOp (restoreSteps backend vm saved) h = (.ok (), h')) :
    runOp (restore backend vm saved) h = (.ok (), h') := by
  unfold restoreSteps at hrun
  obtain ⟨_, h₁, hsettings, hrecords⟩ := runOp_bind_eq_ok hrun
  rw [runOp_restore, runOp_bind_of_ok (runOp_tryCatch_of_ok hsettings)]
  exact runOp_tryCatch_of_ok hrecords

/-- Writing back the DNS records makes their directory, gives it to `root:vcap`, uploads the
records and gives them to the group `vcap`, in that order. -/
theorem restoreDns_of_ok {vm : VmId} {contents : List UInt8} {h h' : MemoryHost}
    (hrun : runOp (restoreDns backend vm contents) h = (.ok (), h'))
    (hsize : contents.length < 2 ^ 63) :
    (∀ q, h'.engine.file? vm.value q =
      if q = Paths.dnsRecords then some contents else h.engine.file? vm.value q) ∧
    h'.engine.execCommands vm.value = h.engine.execCommands vm.value ++
      [["mkdir", "-p", "/var/vcap/instance/dns"], ["chown", "root:vcap", "/var/vcap/instance/dns"],
        ["mkdir", "-p", "/var/vcap/instance/dns"], ["chgrp", "vcap", Paths.dnsRecords]] := by
  unfold restoreDns at hrun
  dsimp only at hrun
  rw [dnsRecords_dir] at hrun
  obtain ⟨_, h₁, hmkdir, hrun⟩ := runOp_bind_eq_ok hrun
  obtain ⟨_, h₂, hchown, hrun⟩ := runOp_bind_eq_ok hrun
  obtain ⟨_, h₃, hupload, hchgrp⟩ := runOp_bind_eq_ok hrun
  obtain ⟨hsame₁, hlog₁⟩ := FileTransfer.exec_of_ok _ hmkdir
  obtain ⟨hsame₂, hlog₂⟩ := FileTransfer.exec_of_ok _ hchown
  obtain ⟨hfiles₃, hlog₃⟩ := FileTransfer.upload_of_ok _ transfersAs_dnsRecords hupload hsize
  obtain ⟨hsame₄, hlog₄⟩ := FileTransfer.exec_of_ok _ hchgrp
  simp only [FileTransfer.forVm_vm] at hfiles₃ hlog₁ hlog₂ hlog₃ hlog₄
  refine ⟨fun q => ?_, ?_⟩
  · rw [MemoryEngine.file?_eq_of_objects hsame₄, hfiles₃, MemoryEngine.file?_eq_of_objects hsame₂,
      MemoryEngine.file?_eq_of_objects hsame₁]
  · rw [hlog₄, hlog₃, hlog₂, hlog₁]
    simp only [List.append_assoc, List.cons_append, List.nil_append]
    rfl

theorem restoreSettings_of_ok {vm : VmId} {saved : Preserved} {h h' : MemoryHost}
    (hrun : runOp (restoreSettings backend vm saved) h = (.ok (), h'))
    (hfit : ∀ c ∈ saved.updateSettings, c.length < 2 ^ 63) :
    (∀ q ≠ Paths.updateSettings, h'.engine.file? vm.value q = h.engine.file? vm.value q) ∧
    h'.engine.file? vm.value Paths.updateSettings =
      saved.updateSettings.or (h.engine.file? vm.value Paths.updateSettings) ∧
    h'.engine.execCommands vm.value = h.engine.execCommands vm.value ++
      if saved.updateSettings.isSome then [["mkdir", "-p", "/var/vcap/bosh"]] else [] := by
  rcases saved with ⟨_ | settings, records⟩
  · cases hrun
    exact ⟨fun _ _ => rfl, rfl, (List.append_nil _).symm⟩
  · obtain ⟨hfiles, hlog⟩ := FileTransfer.upload_of_ok _ transfersAs_updateSettings hrun
      (hfit settings rfl)
    simp only [FileTransfer.forVm_vm] at hfiles hlog
    refine ⟨fun q hq => ?_, ?_, hlog⟩
    · rw [hfiles q, if_neg hq]
    · rw [hfiles, if_pos rfl]
      rfl

theorem restoreRecords_of_ok {vm : VmId} {saved : Preserved} {h h' : MemoryHost}
    (hrun : runOp (restoreRecords backend vm saved) h = (.ok (), h'))
    (hfit : ∀ c ∈ saved.dnsRecords, c.length < 2 ^ 63) :
    (∀ q ≠ Paths.dnsRecords, h'.engine.file? vm.value q = h.engine.file? vm.value q) ∧
    h'.engine.file? vm.value Paths.dnsRecords =
      saved.dnsRecords.or (h.engine.file? vm.value Paths.dnsRecords) ∧
    h'.engine.execCommands vm.value = h.engine.execCommands vm.value ++
      if saved.dnsRecords.isSome then
        [["mkdir", "-p", "/var/vcap/instance/dns"], ["chown", "root:vcap", "/var/vcap/instance/dns"],
          ["mkdir", "-p", "/var/vcap/instance/dns"], ["chgrp", "vcap", Paths.dnsRecords]]
      else [] := by
  rcases saved with ⟨settings, _ | records⟩
  · cases hrun
    exact ⟨fun _ _ => rfl, rfl, (List.append_nil _).symm⟩
  · obtain ⟨hfiles, hlog⟩ := restoreDns_of_ok hrun (hfit records rfl)
    refine ⟨fun q hq => ?_, ?_, hlog⟩
    · rw [hfiles q, if_neg hq]
    · rw [hfiles, if_pos rfl]
      rfl

theorem restoreSteps_of_ok {vm : VmId} {saved : Preserved} {h h' : MemoryHost}
    (hrun : runOp (restoreSteps backend vm saved) h = (.ok (), h'))
    (hfit : (∀ c ∈ saved.updateSettings, c.length < 2 ^ 63) ∧
      ∀ c ∈ saved.dnsRecords, c.length < 2 ^ 63)
    (hnone : ∀ path ∈ stateFiles, h.engine.file? vm.value path = none) :
    h'.engine.file? vm.value Paths.updateSettings = saved.updateSettings ∧
    h'.engine.file? vm.value Paths.dnsRecords = saved.dnsRecords ∧
    h'.engine.execCommands vm.value = h.engine.execCommands vm.value ++ restoreCommands saved := by
  have hdistinct : Paths.updateSettings ≠ Paths.dnsRecords := by decide
  unfold restoreSteps at hrun
  obtain ⟨_, h₁, hsettings, hrecords⟩ := runOp_bind_eq_ok hrun
  obtain ⟨hkeep₁, hsettings₁, hlog₁⟩ := restoreSettings_of_ok hsettings hfit.1
  obtain ⟨hkeep₂, hrecords₂, hlog₂⟩ := restoreRecords_of_ok hrecords hfit.2
  have hnoSettings := hnone _ (List.mem_cons_self ..)
  have hnoRecords := hnone _ (List.mem_cons_of_mem _ (List.mem_singleton_self _))
  refine ⟨?_, ?_, ?_⟩
  · rw [hkeep₂ _ hdistinct, hsettings₁, hnoSettings, Option.or_none]
  · rw [hrecords₂, hkeep₁ _ (Ne.symm hdistinct), hnoRecords, Option.or_none]
  · rw [hlog₂, hlog₁, List.append_assoc]
    rfl

theorem restore_ok (vm : VmId) (saved : Preserved) (h : MemoryHost) :
    runOp (restore backend vm saved) h = (.ok (), (runOp (restore backend vm saved) h).2) := by
  rcases hrun : runOp (restore backend vm saved) h with ⟨_ | _, h'⟩
  · exact (restore_failsWith vm saved _ _ _ hrun).elim
  · rfl

theorem Preserved.ofFiles_fit {s : MemoryEngine} {vm : VmId} (hfit : StateFilesFit s vm) :
    (∀ c ∈ (Preserved.ofFiles s vm).updateSettings, c.length < 2 ^ 63) ∧
      ∀ c ∈ (Preserved.ofFiles s vm).dnsRecords, c.length < 2 ^ 63 :=
  ⟨fun c hc => hfit _ (List.mem_cons_self ..) c (Option.eq_some_of_filter_eq_some hc),
    fun c hc => hfit _ (List.mem_cons_of_mem _ (List.mem_singleton_self _)) c
      (Option.eq_some_of_filter_eq_some hc)⟩

theorem stateFiles_none_of_write {vm : VmId} {spec : ContainerSpec} {env : AgentEnv}
    {h₁ h₂ h₃ : MemoryHost} (hbuild : runOp (rebuild backend vm spec) h₁ = (.ok (), h₂))
    (hwrite : runOp ((FileTransfer.forVm vm).writeAgentEnv backend env) h₂ = (.ok (), h₃))
    (henv : (Utf8.encode env.render).length < 2 ^ 63) :
    ∀ path ∈ stateFiles, h₃.engine.file? vm.value path = none := by
  obtain ⟨c, hc, -, -, hempty⟩ := rebuild_of_ok hbuild
  unfold FileTransfer.writeAgentEnv at hwrite
  obtain ⟨hfiles, -⟩ := FileTransfer.upload_of_ok _ transfersAs_agentEnv hwrite henv
  simp only [FileTransfer.forVm_vm] at hfiles
  intro path hpath
  have hother : path ≠ Paths.agentEnv := by
    simp only [stateFiles, List.mem_cons, List.not_mem_nil, or_false] at hpath
    rcases hpath with rfl | rfl <;> decide
  rw [hfiles, if_neg hother]
  simp only [MemoryEngine.file?, hc, hempty, Option.bind_some]
  rfl

/-! ## Disk changes -/

/-- **State files across a disk change.**  Once the rebuild of a disk change and the write of
its agent environment succeed, the change succeeds, whatever the restore of the state files
meets.  When moreover the state files and the agent environment fit an archive and every
step of the restore succeeds, the change saved the old container's state files, each when it
was there and not empty; the new container holds exactly those; and the restore ran
`restoreCommands` after the commands before it. -/
theorem changeDisk_keeps_state_files {refusal : String} {edit : AgentEnv → AgentEnv}
    {change : BindChange} {vm : VmId} {disk : DiskId} {h h₁ h₂ h₃ : MemoryHost}
    {env : AgentEnv} {saved : Preserved} {spec : ContainerSpec}
    (hdown : runOp (teardown backend refusal change vm disk) h = (.ok (env, saved, spec), h₁))
    (hbuild : runOp (rebuild backend vm spec) h₁ = (.ok (), h₂))
    (hwrite : runOp ((FileTransfer.forVm vm).writeAgentEnv backend (edit env)) h₂ = (.ok (), h₃)) :
    runOp (changeDisk backend refusal edit change vm disk) h =
        (.ok (), (runOp (restore backend vm saved) h₃).2) ∧
      (StateFilesFit h.engine vm → (Utf8.encode (edit env).render).length < 2 ^ 63 →
        (runOp (restoreSteps backend vm saved) h₃).1 = .ok () →
        saved = Preserved.ofFiles h.engine vm ∧
        (∀ path ∈ stateFiles,
          (runOp (changeDisk backend refusal edit change vm disk) h).2.engine.file? vm.value path =
            (h.engine.file? vm.value path).filter (!·.isEmpty)) ∧
        (runOp (changeDisk backend refusal edit change vm disk) h).2.engine.execCommands vm.value =
          h₃.engine.execCommands vm.value ++ restoreCommands saved) := by
  have hrun : runOp (changeDisk backend refusal edit change vm disk) h =
      (.ok (), (runOp (restore backend vm saved) h₃).2) := by
    rw [changeDisk_eq, runOp_bind_of_ok hdown]
    simp only [completeChange]
    rw [runOp_bind_of_ok (runOp_tryCatch_of_ok hbuild), runOp_bind_of_ok hwrite]
    exact restore_ok vm saved h₃
  refine ⟨hrun, fun hfit henv hsteps => ?_⟩
  have hsaved := teardown_saves_state_files hdown hfit
  rcases hrestored : runOp (restoreSteps backend vm saved) h₃ with ⟨r, h₄⟩
  rw [hrestored] at hsteps
  cases hsteps
  rw [hrun, restore_of_steps hrestored]
  have hfits := Preserved.ofFiles_fit hfit
  rw [← hsaved] at hfits
  obtain ⟨hsettings, hrecords, hlog⟩ :=
    restoreSteps_of_ok hrestored hfits (stateFiles_none_of_write hbuild hwrite henv)
  refine ⟨hsaved, fun path hpath => ?_, hlog⟩
  simp only [stateFiles, List.mem_cons, List.not_mem_nil, or_false] at hpath
  rcases hpath with rfl | rfl
  · rw [hsettings, hsaved]
    rfl
  · rw [hrecords, hsaved]
    rfl

/-- The VM c-1 beside the disk vol-1, with DNS records and an empty settings update. -/
def vmWithStateFiles : MemoryEngine :=
  let s := vmWithDisk.putFile "c-1" Paths.updateSettings []
  s.putFile "c-1" Paths.dnsRecords (Utf8.encode "\x7b\"records\":[]\x7d")

/-- A disk change attaching vol-1 to a VM whose settings update is empty: the DNS records
come back, the settings update does not, and the restore runs the commands around the
records' upload. -/
theorem changeDisk_keeps_dns_records :
    let h := (⟨vmWithStateFiles, 0⟩ : MemoryHost)
    let change := BindChange.attach "/warden-cpi-dev/vol-1"
    let down := runOp (teardown backend "refused" change ⟨"c-1"⟩ ⟨"vol-1"⟩) h
    let found := down.1.toOption.getD (default, ⟨none, none⟩, default)
    let built := runOp (rebuild backend ⟨"c-1"⟩ found.2.2) down.2
    let written := runOp ((FileTransfer.forVm ⟨"c-1"⟩).writeAgentEnv backend (id found.1)) built.2
    let after := runOp (changeDisk backend "refused" id change ⟨"c-1"⟩ ⟨"vol-1"⟩) h
    (down = (.ok found, down.2) ∧ built = (.ok (), built.2) ∧ written = (.ok (), written.2)) ∧
    (StateFilesFit h.engine ⟨"c-1"⟩ ∧ (Utf8.encode (id found.1).render).length < 2 ^ 63 ∧
      (runOp (restoreSteps backend ⟨"c-1"⟩ found.2.1) written.2).1 = .ok ()) ∧
    after = (.ok (), (runOp (restore backend ⟨"c-1"⟩ found.2.1) written.2).2) ∧
    (found.2.1 = Preserved.ofFiles h.engine ⟨"c-1"⟩ ∧
      (∀ path ∈ stateFiles, after.2.engine.file? "c-1" path =
        (h.engine.file? "c-1" path).filter (!·.isEmpty)) ∧
      after.2.engine.execCommands "c-1" =
        written.2.engine.execCommands "c-1" ++ restoreCommands found.2.1) := by
  intro h change down found built written after
  -- one evaluation of the runs, shared by the checks of every hypothesis
  obtain ⟨hdownOk, hbuiltOk, hwrittenOk, hfit, henv, hsteps⟩ :
      down.1.isOk = true ∧ built.1.isOk = true ∧ written.1.isOk = true ∧
        StateFilesFit h.engine ⟨"c-1"⟩ ∧ (Utf8.encode (id found.1).render).length < 2 ^ 63 ∧
        (runOp (restoreSteps backend ⟨"c-1"⟩ found.2.1) written.2).1 = .ok () := by
    decide +kernel
  have hdown : down = (.ok found, down.2) := runOp_eq_ok_of_isOk _ hdownOk
  have hbuilt : built = (.ok (), built.2) := runOp_eq_ok_of_isOk () hbuiltOk
  have hwritten : written = (.ok (), written.2) := runOp_eq_ok_of_isOk () hwrittenOk
  obtain ⟨hchange, hkept⟩ := changeDisk_keeps_state_files hdown hbuilt hwritten
  exact ⟨⟨hdown, hbuilt, hwritten⟩, ⟨hfit, henv, hsteps⟩, hchange, hkept hfit henv hsteps⟩

end Vm

end ContainerCpi
