import ContainerCpi.Proofs.Cloud.Copies
import ContainerCpi.Proofs.Text.Utf8

/-!
# Transfers that succeed

On a running container of the engine in memory that lets a transfer's calls through (no
failure queued for execs and copies, every exit code queued 0: `MemoryEngine.Unhindered`), a
file written to a path `d/n`, for a name `n` without `/` and a directory `d` that does not
end in `/`, is stored under that very path and under no other, after exactly one exec,
`mkdir -p` of its directory; and it reads back as the bytes written
(`FileTransfer.transfer_round_trip`).  A path never written reads as missing.

The round trip rests on the archive format keeping a one-file archive (`Tar.KeepsFile`, which
every name that fits the name field has for every file the engine can hold:
`Tar.keepsFile_of_fits`), and on a name's bytes decoding to the name (`Utf8.lossy_encode`).
The path is taken apart at its last `/` on the way in and put together again with the
directory's trailing `/` trimmed; that gives the path back exactly because the directory does
not end in `/` (`FileTransfer.joined_splitPath`).

An exec is found again by its number, written in decimal into its id, so the engine must
number its execs within a machine word, as every engine whose exec list fits in memory does.
-/

namespace ContainerCpi

open MemoryHost

/-! ## Texts -/

namespace Text

theorem stripPrefix?_append (pre x : String) : stripPrefix? (pre ++ x) pre = some x := by
  have hpre : pre.toList.isPrefixOf (pre ++ x).toList = true := by
    rw [List.isPrefixOf_iff_prefix, String.toList_append]
    exact List.prefix_append _ _
  unfold stripPrefix?
  rw [if_pos hpre, String.toList_append, ← String.length_toList, List.drop_left,
    String.ofList_toList]

theorem splitLast_append {d n : String} (hn : '/' ∉ n.toList) :
    splitLast (d ++ "/" ++ n) '/' = some (d, n) := by
  have hrev : (d ++ "/" ++ n).toList.reverse =
      n.toList.reverse ++ '/' :: d.toList.reverse := by
    simp [String.toList_append]
  have hidx : (n.toList.reverse ++ '/' :: d.toList.reverse).idxOf? '/' = some n.toList.length := by
    rw [List.idxOf?_eq_some_iff]
    refine ⟨by simp, by simp, fun j hj hget => hn ?_⟩
    rw [List.getElem_append_left (by simpa using hj)] at hget
    exact List.mem_reverse.1 (hget ▸ List.getElem_mem _)
  have hdrop : (n.toList.reverse ++ '/' :: d.toList.reverse).drop (n.toList.length + 1) =
      d.toList.reverse := by
    rw [← List.singleton_append, ← List.append_assoc, List.drop_left' (by simp)]
  unfold splitLast
  dsimp only
  rw [hrev, hidx]
  simp [hdrop]

theorem trimEndChar_of_getLast? {d : String} {c : Char} (hd : d.toList.getLast? ≠ some c) :
    trimEndChar d c = d := by
  rw [← List.head?_reverse] at hd
  have hkeep : d.toList.reverse.dropWhile (· == c) = d.toList.reverse := by
    cases hrev : d.toList.reverse with
    | nil => rfl
    | cons x xs =>
      rw [hrev, List.head?_cons, ne_eq, Option.some.injEq] at hd
      rw [List.dropWhile_cons, if_neg (by simpa using hd)]
  unfold trimEndChar
  rw [hkeep, List.reverse_reverse, String.ofList_toList]

end Text

namespace Hosts

/-- A number's decimal digits read back as the number, when it fits a machine word. -/
theorem parseWord?_toString {n : Nat} (hn : n < 2 ^ 64) : parseWord? (toString n) = some n := by
  have hdigits : (toString n).toList = Nat.toDigits 10 n := by simp [Nat.repr]
  have hall : ∀ c ∈ Nat.toDigits 10 n, c.isDigit = true :=
    fun c hc => Nat.isDigit_of_mem_toDigits (by decide) (by decide) hc
  have hvalue : (Nat.toDigits 10 n).foldl (fun acc c => acc * 10 + (c.toNat - 48)) 0 = n := by
    have hfun : (fun acc c => acc * 10 + (c.toNat - 48)) =
        fun (acc : Nat) (c : Char) => 10 * acc + (c.toNat - '0'.toNat) := by
      funext acc c
      rw [Nat.mul_comm]
      rfl
    rw [hfun]
    exact Nat.ofDigitChars_ten_toDigits
  unfold parseWord?
  rw [hdigits]
  dsimp only
  split
  · -- the first digit is no sign
    rename_i ds hplus
    have := hall '+' (hplus ▸ List.mem_cons_self)
    cases this
  · have hnonempty : (Nat.toDigits 10 n).isEmpty = false := by
      simp [Nat.toDigits_ne_nil]
    simp only [hnonempty, List.all_eq_true.2 hall, Bool.not_true, Bool.or_false,
      Bool.false_eq_true, if_false, hvalue]
    rw [if_pos (show n < Nat.pow 2 64 from hn)]

end Hosts

/-! ## Archives that keep their file -/

namespace Tar

/-- The archive writer and reader keep a one-file archive of mode 0640: it reads back as the
file, under the name it was written with. -/
def KeepsFile (name contents : List UInt8) : Prop :=
  read <$> archive 0o640 [(name, contents)] = .ok ([⟨name, some 0o640, contents⟩], none)

theorem keepsFile_of_fits {name contents : List UInt8} (hname : namePath name false = .ok name)
    (hsize : contents.length < 2 ^ 63) : KeepsFile name contents :=
  read_archive hname (by decide) hsize

theorem KeepsFile.archive_eq {name contents : List UInt8} (hk : KeepsFile name contents) :
    ∃ a, archive 0o640 [(name, contents)] = .ok a ∧
      read a = ([⟨name, some 0o640, contents⟩], none) := by
  unfold KeepsFile at hk
  rcases harchive : archive 0o640 [(name, contents)] with e | a
  · rw [harchive] at hk
    cases hk
  · rw [harchive] at hk
    exact ⟨a, rfl, Except.ok.inj hk⟩

end Tar

/-! ## The engine's side -/

namespace MemoryEngine

/-- A container `name` that runs on an engine letting a transfer's calls through: no failure
queued for execs and copies, every exit code queued 0, and exec numbers within a machine
word. -/
structure Unhindered (s : MemoryEngine) (name : String) : Prop where
  running : ∃ c, SortedMap.get? s.containers name = some c ∧ c.running = true
  createExec : s.queued .createExec = []
  startExec : s.queued .startExec = []
  inspectExec : s.queued .inspectExec = []
  copyTo : s.queued .copyTo = []
  copyFrom : s.queued .copyFrom = []
  exitCodes : ∀ code ∈ s.exitCodes, code = 0
  execs : s.execs.length < 2 ^ 64

@[simp] theorem enter_exitCodes (s : MemoryEngine) (op : Op) (t : String) :
    (s.enter op t).1.exitCodes = s.exitCodes := by
  dsimp only [enter]
  split <;> rfl

theorem firstMember_of_keepsFile {path : String} {contents : List UInt8}
    (hk : Tar.KeepsFile (Utf8.encode (leafName path)) contents) :
    ∃ archive, singleFileArchive path contents = .ok archive ∧
      FileTransfer.firstMember archive = .ok contents := by
  obtain ⟨archive, harchive, hread⟩ := hk.archive_eq
  refine ⟨archive, ?_, ?_⟩
  · simp only [singleFileArchive]
    rw [show ((Text.splitLast path '/').map (·.2)).getD path = leafName path from rfl, harchive]
    rfl
  · simp only [FileTransfer.firstMember, hread]

theorem unpack_of_keepsFile {name : String} {contents archive : List UInt8}
    (harchive : Tar.archive 0o640 [(Utf8.encode name, contents)] = .ok archive)
    (hk : Tar.KeepsFile (Utf8.encode name) contents) (dir : String) :
    unpack dir archive = .ok [(Text.trimEndChar dir '/' ++ "/" ++ name, contents)] := by
  obtain ⟨archive', harchive', hread⟩ := hk.archive_eq
  rw [harchive] at harchive'
  cases harchive'
  simp only [unpack, hread, List.map_cons, List.map_nil, Utf8.lossy_encode]

theorem serve_createExec_of_running {s : MemoryEngine} {name : String} {c : StoredContainer}
    (hq : s.queued .createExec = []) (hc : SortedMap.get? s.containers name = some c)
    (hrun : c.running = true) (cmd : List String) :
    ∃ s', s.serve (.createExec name cmd) = (.ok s!"exec-{s.execs.length}", s') ∧
      s'.execs = s.execs ++ [⟨name, cmd, s.exitCodes.headD 0⟩] := by
  rw [serve_of_not_queued (c := .createExec name cmd) hq]
  simp only [answer, Call.op, Call.target, container, enter_containers, hc, hrun, Bool.not_true,
    Bool.false_eq_true, if_false, enter_execs]
  cases hcodes : s.exitCodes <;>
    simp only [enter_exitCodes, hcodes, List.headD_nil, List.headD_cons] <;> exact ⟨_, rfl, rfl⟩

theorem serve_startExec_of_nil {s : MemoryEngine} {id : String} (hq : s.queued .startExec = []) :
    s.serve (.startExec id) = (.ok (), (s.enter .startExec id).1) := by
  rw [serve_of_not_queued (c := .startExec id) hq]
  rfl

theorem serve_inspectExec_of_getElem? {s : MemoryEngine} {i : Nat} {e : ExecRecord}
    (hq : s.queued .inspectExec = []) (he : s.execs[i]? = some e) (hi : i < 2 ^ 64) :
    s.serve (.inspectExec s!"exec-{i}") =
      (.ok ⟨false, some e.exitCode⟩, (s.enter .inspectExec s!"exec-{i}").1) := by
  rw [serve_of_not_queued (c := .inspectExec _) hq]
  have hfound : ((Text.stripPrefix? s!"exec-{i}" "exec-").bind Hosts.parseWord?).bind
      (fun j => (s.enter .inspectExec s!"exec-{i}").1.execs[j]?) = some e := by
    rw [show s!"exec-{i}" = "exec-" ++ toString i from rfl, Text.stripPrefix?_append,
      Option.bind_some, Hosts.parseWord?_toString hi, Option.bind_some, enter_execs, he]
  simp only [answer, Call.op, Call.target, hfound]

theorem serve_copyTo_of_container {s : MemoryEngine} {name dir : String} {archive : List UInt8}
    {files : List (String × List UInt8)} {c : StoredContainer} (hq : s.queued .copyTo = [])
    (hunpack : unpack dir archive = .ok files) (hc : SortedMap.get? s.containers name = some c) :
    (s.serve (.copyTo name dir archive)).1 = .ok () := by
  rw [serve_of_not_queued (c := .copyTo name dir archive) hq]
  simp only [answer, Call.op, Call.target, hunpack, container, enter_containers, hc]

end MemoryEngine

/-! ## Commands and transfers that succeed -/

namespace FileTransfer

variable (f : FileTransfer)

theorem await_of_exited {command id : String} {budget : Nat} {h : MemoryHost} {s : MemoryEngine}
    {code : Option Int} (hcode : code = none ∨ code = some 0)
    (hserve : h.engine.serve (.inspectExec id) = (.ok ⟨false, code⟩, s)) :
    runOp (await backend command id (budget + 1)) h = (.ok true, { h with engine := s }) := by
  unfold await
  rw [runOp_bind, runOp_ask, hserve]
  dsimp only
  rcases hcode with rfl | rfl <;> rfl

/-- A command in a running container of an engine that lets it through succeeds, as the one
exec it records, with exit code 0. -/
theorem runToCompletion_of_unhindered {h : MemoryHost} (hu : h.engine.Unhindered f.vm.value)
    (cmd : List String) :
    ∃ h', runOp (runToCompletion backend f cmd) h = (.ok (), h') ∧
      h'.engine.execs = h.engine.execs ++ [⟨f.vm.value, cmd, 0⟩] := by
  obtain ⟨c, hc, hrun⟩ := hu.running
  have hcode : h.engine.exitCodes.headD 0 = 0 := by
    cases hcodes : h.engine.exitCodes with
    | nil => rfl
    | cons code rest => exact hu.exitCodes code (by simp [hcodes])
  -- the exec is numbered by the count of execs before it, and found again by that number
  obtain ⟨s₁, hcreate, hs₁⟩ :=
    MemoryEngine.serve_createExec_of_running hu.createExec hc hrun cmd
  rw [hcode] at hs₁
  have hstart₁ : s₁.queued .startExec = [] := by
    simpa only [hcreate] using h.engine.queued_serve_of_nil (.createExec f.vm.value cmd) hu.startExec
  have hinspect₁ : s₁.queued .inspectExec = [] := by
    simpa only [hcreate] using
      h.engine.queued_serve_of_nil (.createExec f.vm.value cmd) hu.inspectExec
  set id := s!"exec-{h.engine.execs.length}"
  obtain ⟨s₂, hstart, hs₂⟩ : ∃ s₂, s₁.serve (.startExec id) = (.ok (), s₂) ∧
      s₂ = (s₁.enter .startExec id).1 :=
    ⟨_, MemoryEngine.serve_startExec_of_nil hstart₁, rfl⟩
  have hinspect₂ : s₂.queued .inspectExec = [] := by
    simpa only [hstart] using s₁.queued_serve_of_nil (.startExec id) hinspect₁
  have hfound : s₂.execs[h.engine.execs.length]? = some ⟨f.vm.value, cmd, 0⟩ := by
    rw [hs₂, MemoryEngine.enter_execs, hs₁]
    simp
  have hinspect := MemoryEngine.serve_inspectExec_of_getElem? hinspect₂ hfound hu.execs
  refine ⟨{ h with engine := (s₂.enter .inspectExec id).1 }, ?_, ?_⟩
  · obtain ⟨budget, hbudget⟩ : ∃ budget, f.pollBudget = budget + 1 := ⟨_, rfl⟩
    unfold runToCompletion
    dsimp only
    rw [runOp_bind, runOp_ask, hcreate]
    dsimp only
    rw [runOp_bind_of_ok (runOp_pure _ _), runOp_bind, runOp_ask]
    dsimp only
    rw [hstart]
    dsimp only
    rw [hbudget, runOp_bind_of_ok (await_of_exited (.inr rfl) hinspect)]
    rfl
  · rw [MemoryEngine.enter_execs, hs₂, MemoryEngine.enter_execs, hs₁]

theorem download_of_keepsFile {h : MemoryHost} {path : String} {contents : List UInt8}
    (hq : h.engine.queued .copyFrom = []) (hfile : h.engine.file? f.vm.value path = some contents)
    (hk : Tar.KeepsFile (Utf8.encode (MemoryEngine.leafName path)) contents) :
    (runOp (download backend f path) h).1 = .ok contents := by
  obtain ⟨archive, harchive, hfirst⟩ := MemoryEngine.firstMember_of_keepsFile hk
  have hserve := MemoryEngine.serve_copyFrom_of_file hq hfile
  rw [harchive] at hserve
  unfold download
  rw [runOp_bounded, runOp_bind, runOp_ask]
  dsimp only
  rw [hserve]
  dsimp only
  rw [runOp_bind_of_ok (runOp_pure _ _), hfirst]
  rfl

/-- An upload to a running container of an engine that lets it through succeeds after one
exec, `mkdir -p` of the directory, and stores the bytes under the directory, its trailing `/`s
trimmed, and the name, beside the files that were there. -/
theorem upload_of_unhindered {h : MemoryHost} (hu : h.engine.Unhindered f.vm.value)
    {path dir name : String} {contents : List UInt8} (hsplit : splitPath path = (dir, name))
    (hk : Tar.KeepsFile (Utf8.encode name) contents) :
    ∃ h', runOp (upload backend f path contents) h = (.ok (), h') ∧
      h'.engine.execs = h.engine.execs ++ [⟨f.vm.value, ["mkdir", "-p", dir], 0⟩] ∧
      ∀ q, h'.engine.file? f.vm.value q =
        if q = Text.trimEndChar dir '/' ++ "/" ++ name then some contents
        else h.engine.file? f.vm.value q := by
  obtain ⟨archive, harchive, -⟩ := hk.archive_eq
  have hunpack := MemoryEngine.unpack_of_keepsFile harchive hk dir
  obtain ⟨h₁, hmkdir, hexecs⟩ := runToCompletion_of_unhindered f hu ["mkdir", "-p", dir]
  -- the directory's exec keeps the container and lets the copy through
  have hsame := (runToCompletion_of_ok f hmkdir).1
  have hq : h₁.engine.queued .copyTo = [] := by
    simpa only [hmkdir] using
      (runToCompletion_onlyCalls f ["mkdir", "-p", dir]).queued_nil hu.copyTo
  obtain ⟨c, hc, -⟩ := hu.running
  have hc₁ : SortedMap.get? h₁.engine.containers f.vm.value = some c := by
    rw [show h₁.engine.containers = h.engine.containers from
      congrArg EngineObjects.containers hsame]
    exact hc
  have hcopy := MemoryEngine.serve_copyTo_of_container hq hunpack hc₁
  refine ⟨{ h₁ with engine := (h₁.engine.serve (.copyTo f.vm.value dir archive)).2 }, ?_, ?_,
    fun q => ?_⟩
  · unfold upload
    rw [hsplit]
    dsimp only
    rw [harchive]
    dsimp only
    rw [runOp_bind_of_ok (runOp_pure _ _), runOp_bounded, runOp_bind_of_ok hmkdir, runOp_bind,
      runOp_ask]
    dsimp only
    rw [hcopy]
    rfl
  · rw [MemoryEngine.serve_copyTo_execs, hexecs]
  · rw [MemoryEngine.serve_copyTo_of_ok hcopy hunpack q, MemoryEngine.file?_eq_of_objects hsame]

/-! ## Paths -/

theorem splitPath_append {d n : String} (hn : '/' ∉ n.toList) :
    splitPath (d ++ "/" ++ n) = (if d.isEmpty then "/" else d, n) := by
  simp only [splitPath, Text.splitLast_append hn]

theorem leafName_append {d n : String} (hn : '/' ∉ n.toList) :
    MemoryEngine.leafName (d ++ "/" ++ n) = n := by
  simp only [MemoryEngine.leafName, Text.splitLast_append hn, Option.map_some, Option.getD_some]

theorem joined_splitPath {d n : String} (hd : d.toList.getLast? ≠ some '/') :
    Text.trimEndChar (if d.isEmpty then "/" else d) '/' ++ "/" ++ n = d ++ "/" ++ n := by
  by_cases hempty : d.isEmpty
  · rw [if_pos hempty, String.isEmpty_iff.1 hempty]
    rfl
  · rw [if_neg hempty, Text.trimEndChar_of_getLast? hd]

/-! ## The round trip -/

/-- A file written to `d/n` in a running container of an engine that lets the transfer
through is written after exactly one exec, `mkdir -p` of its directory (of the root when `d`
is empty), is stored under `d/n` and nowhere else, and reads back as the bytes written; a path
never written reads as missing.  The name `n` has no `/`, the directory `d` does not end in
`/`, and the archive format keeps the file under its name. -/
theorem transfer_round_trip {h : MemoryHost} (hu : h.engine.Unhindered f.vm.value) {d n : String}
    {c : List UInt8} (hn : '/' ∉ n.toList) (hd : d.toList.getLast? ≠ some '/')
    (hk : Tar.KeepsFile (Utf8.encode n) c) :
    (∃ h', runOp (upload backend f (d ++ "/" ++ n) c) h = (.ok (), h') ∧
      h'.engine.execs =
        h.engine.execs ++ [⟨f.vm.value, ["mkdir", "-p", if d.isEmpty then "/" else d], 0⟩] ∧
      (∀ q, h'.engine.file? f.vm.value q =
        if q = d ++ "/" ++ n then some c else h.engine.file? f.vm.value q) ∧
      (runOp (download backend f (d ++ "/" ++ n)) h').1 = .ok c) ∧
    ∀ q, h.engine.file? f.vm.value q = none →
      (runOp (download backend f q) h).1 = .error (.fileNotFound q) := by
  refine ⟨?_, fun q hq => download_of_missing f hu.copyFrom hq⟩
  obtain ⟨h', hrun, hexecs, hfiles⟩ := upload_of_unhindered f hu (splitPath_append hn) hk
  rw [joined_splitPath hd] at hfiles
  have hq : h'.engine.queued .copyFrom = [] := by
    simpa only [hrun] using (upload_onlyCalls f (d ++ "/" ++ n) c).queued_nil hu.copyFrom
  refine ⟨h', hrun, hexecs, hfiles, download_of_keepsFile f hq ?_ ?_⟩
  · rw [hfiles, if_pos rfl]
  · rwa [leafName_append hn]

/-- An engine whose one container, `c-1`, runs. -/
def oneRunning : MemoryEngine := (MemoryEngine.empty ⟨8589934592, 4⟩).addContainer "c-1" .empty

theorem oneRunning_unhindered : oneRunning.Unhindered "c-1" where
  running := ⟨_, rfl, rfl⟩
  createExec := rfl
  startExec := rfl
  inspectExec := rfl
  copyTo := rfl
  copyFrom := rfl
  exitCodes := fun _ hcode => nomatch hcode
  execs := by decide

/-- A file written to `/var/vcap/motd` of `c-1` reads back. -/
theorem motd_reads_back :
    ∃ h', runOp (upload backend (forVm ⟨"c-1"⟩) ("/var/vcap" ++ "/" ++ "motd") (Utf8.encode "hi"))
        ⟨oneRunning, 0⟩ = (.ok (), h') ∧
      (runOp (download backend (forVm ⟨"c-1"⟩) ("/var/vcap" ++ "/" ++ "motd")) h').1 =
        .ok (Utf8.encode "hi") := by
  obtain ⟨⟨h', hrun, -, -, hread⟩, -⟩ := transfer_round_trip (forVm ⟨"c-1"⟩)
    (h := ⟨oneRunning, 0⟩) (d := "/var/vcap") (n := "motd") (c := Utf8.encode "hi")
    oneRunning_unhindered (by decide) (by decide)
    (Tar.keepsFile_of_fits (by decide +kernel) (by decide +kernel))
  exact ⟨h', hrun, hread⟩

/-- With a failure queued for copies into containers, the upload fails after its directory
was made, and stores nothing. -/
theorem upload_fails_on_queued_copy :
    let after := runOp (upload backend (forVm ⟨"c-1"⟩) ("/var/vcap" ++ "/" ++ "motd")
      (Utf8.encode "hi")) ⟨oneRunning.fail .copyTo (.transport "EOF") 1, 0⟩
    after.1 = .error (.fileTransfer "/var/vcap/motd" (EngineError.transport "EOF").message) ∧
      after.2.engine.execCommands "c-1" = [["mkdir", "-p", "/var/vcap"]] ∧
      after.2.engine.file? "c-1" "/var/vcap/motd" = none := by
  decide +kernel

end FileTransfer

end ContainerCpi
