import ContainerCpi.Proofs.Archive.RoundTrip
import ContainerCpi.Proofs.Cloud.Files

/-!
# What downloads, uploads and commands leave behind

The engine copies files as one-file archives.  A download of a file the VM's container has
gives back the file's bytes, and a download of one it lacks reports the file missing
(`download_of_file`, `download_of_missing`), when no failure is queued for copies.  An upload
that succeeds puts the bytes written under the file's path in the container, beside the
files it had (`upload_of_ok`), and a command that succeeds is recorded in the container's
exec log after the commands before it (`runToCompletion_of_ok`).

Both directions go through `Tar.read_archive`, so they hold for a path that crosses under
itself (`TransfersAs`: its file name has a name field, and its directory and name give the
path back), and for a file of fewer than `2 ^ 63` bytes.
-/

namespace ContainerCpi

open MemoryHost

namespace MemoryEngine

/-- The file name the engine gives the one member of a file it copies out: the path's last
part. -/
def leafName (path : String) : String := ((Text.splitLast path '/').map (·.2)).getD path

@[simp] theorem enter_execs (s : MemoryEngine) (op : Op) (t : String) :
    (s.enter op t).1.execs = s.execs := by
  dsimp only [enter]
  split <;> rfl

theorem file?_eq_of_objects {s s' : MemoryEngine} (h : s'.objects = s.objects) (name path : String) :
    s'.file? name path = s.file? name path := by
  have hcontainers : s'.containers = s.containers := congrArg EngineObjects.containers h
  simp only [file?, hcontainers]

/-! ## Archives of one file -/

theorem firstMember_singleFileArchive {path : String} {contents n : List UInt8}
    (hname : Tar.namePath (Utf8.encode (leafName path)) false = .ok n)
    (hsize : contents.length < 2 ^ 63) :
    ∃ archive, singleFileArchive path contents = .ok archive ∧
      FileTransfer.firstMember archive = .ok contents := by
  have hread : Tar.read <$> Tar.archive 0o640 [(Utf8.encode (leafName path), contents)] =
      .ok ([⟨n, some 0o640, contents⟩], none) := Tar.read_archive hname (by decide) hsize
  rcases harchive : Tar.archive 0o640 [(Utf8.encode (leafName path), contents)] with e | archive
  · rw [harchive] at hread
    cases hread
  · rw [harchive] at hread
    refine ⟨archive, ?_, ?_⟩
    · simp only [singleFileArchive]
      rw [show ((Text.splitLast path '/').map (·.2)).getD path = leafName path from rfl, harchive]
      rfl
    · have hmembers : Tar.read archive = ([⟨n, some 0o640, contents⟩], none) :=
        Except.ok.inj hread
      simp only [FileTransfer.firstMember, hmembers]

theorem unpack_archive {dir name : String} {contents n archive : List UInt8}
    (harchive : Tar.archive 0o640 [(Utf8.encode name, contents)] = .ok archive)
    (hname : Tar.namePath (Utf8.encode name) false = .ok n) (hsize : contents.length < 2 ^ 63) :
    unpack dir archive = .ok [(Text.trimEndChar dir '/' ++ "/" ++ Utf8.lossy n, contents)] := by
  have hread : Tar.read <$> Tar.archive 0o640 [(Utf8.encode name, contents)] =
      .ok ([⟨n, some 0o640, contents⟩], none) := Tar.read_archive hname (by decide) hsize
  rw [harchive] at hread
  have hmembers : Tar.read archive = ([⟨n, some 0o640, contents⟩], none) := Except.ok.inj hread
  simp only [unpack, hmembers]
  rfl

/-! ## Serving copies and execs -/

theorem serve_copyFrom_of_file {s : MemoryEngine} {name path : String} {contents : List UInt8}
    (hq : s.queued .copyFrom = []) (hfile : s.file? name path = some contents) :
    (s.serve (.copyFrom name path)).1 = singleFileArchive path contents := by
  obtain ⟨c, hc, hf⟩ := Option.bind_eq_some_iff.mp hfile
  rw [serve_of_not_queued (c := .copyFrom name path) hq]
  simp only [answer, container, enter_containers, hc, hf]

theorem serve_copyFrom_of_missing {s : MemoryEngine} {name path : String}
    (hq : s.queued .copyFrom = []) (hfile : s.file? name path = none) :
    ∃ e, (s.serve (.copyFrom name path)).1 = .error e ∧ e.isNotFound = true := by
  rw [serve_of_not_queued (c := .copyFrom name path) hq]
  simp only [file?, Option.bind_eq_none_iff] at hfile
  rcases hget : SortedMap.get? s.containers name with _ | c
  · simp only [answer, container, enter_containers, hget]
    exact ⟨_, rfl, rfl⟩
  · simp only [answer, container, enter_containers, hget, hfile c hget]
    exact ⟨_, rfl, rfl⟩

theorem serve_copyTo_of_ok {s : MemoryEngine} {name dir path : String}
    {archive contents : List UInt8} (h : (s.serve (.copyTo name dir archive)).1 = .ok ())
    (hunpack : unpack dir archive = .ok [(path, contents)]) (q : String) :
    (s.serve (.copyTo name dir archive)).2.file? name q =
      if q = path then some contents else s.file? name q := by
  have hserve := serve_eq_answer_of_ok h
  rw [hserve] at h ⊢
  revert h
  simp only [answer, hunpack, container, enter_containers]
  rcases hget : SortedMap.get? s.containers name with _ | c
  · intro h
    cases h
  · intro _
    simp only [file?, updateContainer, SortedMap.get?_modify_self, enter_containers, hget,
      Option.map_some, Option.bind_some, List.foldl_cons, List.foldl_nil]
    split
    · rename_i hq
      subst hq
      exact SortedMap.get?_insert_self ..
    · rename_i hq
      exact SortedMap.get?_insert_of_ne _ _ (Ne.symm hq)

theorem serve_copyTo_execs (s : MemoryEngine) (name dir : String) (archive : List UInt8) :
    (s.serve (.copyTo name dir archive)).2.execs = s.execs := by
  rcases hq : s.queued Op.copyTo with _ | ⟨e, rest⟩
  · rw [serve_of_not_queued (c := .copyTo name dir archive) hq]
    simp only [answer]
    repeat' split
    all_goals simp [updateContainer]
  · rw [serve_of_queued (c := .copyTo name dir archive) hq, enter_execs]

theorem serve_createExec_of_ok {s : MemoryEngine} {name id : String} {cmd : List String}
    (h : (s.serve (.createExec name cmd)).1 = .ok id) :
    (s.serve (.createExec name cmd)).2.execCommands name = s.execCommands name ++ [cmd] := by
  have hserve := serve_eq_answer_of_ok h
  rw [hserve] at h ⊢
  revert h
  simp only [answer, container, enter_containers]
  rcases hget : SortedMap.get? s.containers name with _ | c
  · intro h
    cases h
  · dsimp only
    split
    · intro h
      cases h
    · intro _
      simp [execCommands]

theorem serve_startExec_execs (s : MemoryEngine) (id : String) :
    (s.serve (.startExec id)).2.execs = s.execs := by
  rcases hq : s.queued Op.startExec with _ | ⟨e, rest⟩
  · rw [serve_of_not_queued (c := .startExec id) hq]
    simp [answer]
  · rw [serve_of_queued (c := .startExec id) hq, enter_execs]

theorem serve_inspectExec_execs (s : MemoryEngine) (id : String) :
    (s.serve (.inspectExec id)).2.execs = s.execs := by
  rcases hq : s.queued Op.inspectExec with _ | ⟨e, rest⟩
  · rw [serve_of_not_queued (c := .inspectExec id) hq]
    simp only [answer]
    split <;> simp
  · rw [serve_of_queued (c := .inspectExec id) hq, enter_execs]

end MemoryEngine

/-- The calls that inspect an exec. -/
def Call.inspectsExec : Call → Bool
  | .inspectExec _ => true
  | _ => false

namespace FileTransfer

/-- A path whose file crosses into and out of a container under the path itself: its file
name `name` is the name field of its own bytes, and the upload's directory `dir` and that
name give the path back. -/
def TransfersAs (path dir name : String) : Prop :=
  MemoryEngine.leafName path = name ∧ splitPath path = (dir, name) ∧
    Tar.namePath (Utf8.encode name) false = .ok (Utf8.encode name) ∧
    Text.trimEndChar dir '/' ++ "/" ++ Utf8.lossy (Utf8.encode name) = path

instance (path dir name : String) : Decidable (TransfersAs path dir name) :=
  inferInstanceAs (Decidable (_ ∧ _ ∧ _ ∧ _))

@[simp] theorem forVm_vm (vm : VmId) : (forVm vm).vm = vm := rfl

variable (f : FileTransfer)

theorem await_execs {command id : String} {budget : Nat} {h h' : MemoryHost} {r : Except CpiError Bool}
    (hrun : runOp (await backend command id budget) h = (r, h')) : h'.engine.execs = h.engine.execs := by
  have hsame := (await_onlyCalls_of (P := Call.inspectsExec) (fun _ => rfl) command id
    budget).engine_keeps (R := fun s s' => s'.execs = s.execs) (fun _ => rfl)
    (fun h₁ h₂ => h₂.trans h₁)
    (fun c hc s => by
      cases c with
      | inspectExec id => exact s.serve_inspectExec_execs id
      | _ => cases hc)
    h
  rwa [hrun] at hsame

/-- A command that succeeds is recorded in the VM's exec log, and changes no object. -/
theorem runToCompletion_of_ok {cmd : List String} {h h' : MemoryHost}
    (hrun : runOp (runToCompletion backend f cmd) h = (.ok (), h')) :
    h'.engine.objects = h.engine.objects ∧
      h'.engine.execCommands f.vm.value = h.engine.execCommands f.vm.value ++ [cmd] := by
  refine ⟨(runToCompletion_onlyCalls f cmd).objects_eq_of_run hrun, ?_⟩
  unfold runToCompletion at hrun
  dsimp only at hrun
  obtain ⟨created, h₁, hcreate, hrest⟩ := runOp_bind_eq_ok hrun
  rw [runOp_ask] at hcreate
  obtain ⟨hcreated, rfl⟩ := Prod.mk.inj hcreate
  split at hrest
  · rename_i id
    have hlog := MemoryEngine.serve_createExec_of_ok (Except.ok.inj hcreated)
    rw [runOp_bind_of_ok (runOp_pure _ _)] at hrest
    obtain ⟨started, h₂, hstart, hrest⟩ := runOp_bind_eq_ok hrest
    rw [runOp_ask] at hstart
    obtain ⟨-, rfl⟩ := Prod.mk.inj hstart
    split at hrest
    · obtain ⟨done, h₃, hawait, hend⟩ := runOp_bind_eq_ok hrest
      split at hend
      · cases hend
      · cases hend
        have hpolls := await_execs hawait
        rw [MemoryEngine.serve_startExec_execs] at hpolls
        simp only [MemoryEngine.execCommands, hpolls] at hlog ⊢
        exact hlog
    · rw [runOp_bind_of_error (runOp_throw _ _)] at hrest
      cases hrest
  · rw [runOp_bind_of_error (runOp_throw _ _)] at hrest
    cases hrest

theorem exec_of_ok {cmd : List String} {h h' : MemoryHost}
    (hrun : runOp (exec backend f cmd) h = (.ok (), h')) :
    h'.engine.objects = h.engine.objects ∧
      h'.engine.execCommands f.vm.value = h.engine.execCommands f.vm.value ++ [cmd] :=
  runToCompletion_of_ok f hrun

theorem queued_copyFrom_of_download {h h' : MemoryHost} {path : String} {contents : List UInt8}
    (hrun : runOp (download backend f path) h = (.ok contents, h')) :
    h.engine.queued .copyFrom = [] := by
  rcases hq : h.engine.queued Op.copyFrom with _ | ⟨e, rest⟩
  · rfl
  · have hserve := MemoryEngine.serve_of_queued (c := .copyFrom f.vm.value path) hq
    unfold download at hrun
    rw [runOp_bounded, runOp_bind, runOp_ask, hserve] at hrun
    dsimp only at hrun
    rw [runOp_bind_of_error (runOp_throw _ _)] at hrun
    cases hrun

theorem queued_copyFrom_of_fetchAgentEnv {h h' : MemoryHost} {env : AgentEnv}
    (hrun : runOp (fetchAgentEnv backend f) h = (.ok env, h')) : h.engine.queued .copyFrom = [] := by
  unfold fetchAgentEnv at hrun
  obtain ⟨_, _, hdownload, -⟩ := runOp_bind_eq_ok hrun
  exact queued_copyFrom_of_download f hdownload

theorem download_of_file {h : MemoryHost} {path dir name : String} {contents : List UInt8}
    (ht : TransfersAs path dir name) (hq : h.engine.queued .copyFrom = [])
    (hfile : h.engine.file? f.vm.value path = some contents) (hsize : contents.length < 2 ^ 63) :
    (runOp (download backend f path) h).1 = .ok contents := by
  obtain ⟨hleaf, -, hname, -⟩ := ht
  rw [← hleaf] at hname
  obtain ⟨archive, harchive, hfirst⟩ := MemoryEngine.firstMember_singleFileArchive hname hsize
  have hserve := MemoryEngine.serve_copyFrom_of_file hq hfile
  rw [harchive] at hserve
  unfold download
  rw [runOp_bounded, runOp_bind, runOp_ask]
  dsimp only
  rw [hserve]
  dsimp only
  rw [runOp_bind_of_ok (runOp_pure _ _), hfirst]
  rfl

theorem download_of_missing {h : MemoryHost} {path : String} (hq : h.engine.queued .copyFrom = [])
    (hfile : h.engine.file? f.vm.value path = none) :
    (runOp (download backend f path) h).1 = .error (.fileNotFound path) := by
  obtain ⟨e, hserve, hmissing⟩ := MemoryEngine.serve_copyFrom_of_missing hq hfile
  unfold download
  rw [runOp_bounded, runOp_bind, runOp_ask]
  dsimp only
  rw [hserve]
  dsimp only
  rw [hmissing]
  rfl

/-- An upload that succeeds leaves the bytes written under the file's path in the VM's
container, beside its other files, and records the `mkdir -p` of the file's directory. -/
theorem upload_of_ok {h h' : MemoryHost} {path dir name : String} {contents : List UInt8}
    (ht : TransfersAs path dir name) (hrun : runOp (upload backend f path contents) h = (.ok (), h'))
    (hsize : contents.length < 2 ^ 63) :
    (∀ q, h'.engine.file? f.vm.value q =
      if q = path then some contents else h.engine.file? f.vm.value q) ∧
    h'.engine.execCommands f.vm.value = h.engine.execCommands f.vm.value ++ [["mkdir", "-p", dir]] := by
  obtain ⟨-, hsplit, hname, htarget⟩ := ht
  obtain ⟨archive, harchive⟩ : ∃ archive,
      Tar.archive 0o640 [(Utf8.encode name, contents)] = .ok archive := ⟨_, Tar.archive_single hname⟩
  have hunpack : MemoryEngine.unpack dir archive = .ok [(path, contents)] := by
    rw [← htarget]
    exact MemoryEngine.unpack_archive harchive hname hsize
  unfold upload at hrun
  rw [hsplit] at hrun
  dsimp only at hrun
  rw [harchive] at hrun
  dsimp only at hrun
  rw [runOp_bind_of_ok (runOp_pure _ _), runOp_bounded] at hrun
  obtain ⟨_, h₁, hmkdir, hcopy⟩ := runOp_bind_eq_ok hrun
  obtain ⟨hsame, hlog⟩ := runToCompletion_of_ok f hmkdir
  rw [runOp_bind, runOp_ask] at hcopy
  dsimp only at hcopy
  split at hcopy
  · rename_i hserve
    cases hcopy
    refine ⟨fun q => ?_, ?_⟩
    · rw [MemoryEngine.serve_copyTo_of_ok hserve hunpack q,
        MemoryEngine.file?_eq_of_objects hsame]
    · simp only [MemoryEngine.execCommands, MemoryEngine.serve_copyTo_execs] at hlog ⊢
      exact hlog
  · cases hcopy

end FileTransfer

end ContainerCpi
