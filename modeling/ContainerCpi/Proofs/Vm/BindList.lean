import ContainerCpi.Cloud.Vm

/-!
# The bind list of a disk change

Attaching a disk at a path binds it once: the first entry that binds the disk (one that
starts with `d:`) is replaced in place by `d:path`, or `d:path` is appended when no entry
binds it.  Detaching drops that first entry.  Every other entry stays where it was.

From these two equations follow the laws a recreate relies on: from a list with at most one
bind of the disk, attaching leaves exactly one and detaching none; attaching twice is
attaching once; detaching twice is detaching once; and detaching undoes an attach to a list
that did not bind the disk.  Matching is by the text `d:`, so a disk whose name is a prefix
of another's (`vol-1`, `vol-10`) does not match it, and the binds of ephemeral volumes are
never touched by the change of another disk.
-/

namespace ContainerCpi.Vm

/-- Whether a bind entry mounts disk `d`: it starts with `d:`. -/
def bindsDisk (d : DiskId) (entry : String) : Bool := entry.startsWith (d.value ++ ":")

/-- The entry that binds disk `d` at `path`. -/
def bindEntry (d : DiskId) (path : String) : String := d.value ++ ":" ++ path

theorem bindsDisk_iff {d : DiskId} {entry : String} :
    bindsDisk d entry = true ↔ (d.value.toList ++ [':']) <+: entry.toList := by
  simp [bindsDisk, String.startsWith_string_iff]

@[simp] theorem bindsDisk_bindEntry (d : DiskId) (path : String) :
    bindsDisk d (bindEntry d path) = true := by
  rw [bindsDisk_iff, bindEntry, String.toList_append, String.toList_append]
  simp

/-- A list of binds split at its first bind of `d`. -/
structure FirstBind (d : DiskId) (binds pre : List String) (entry : String)
    (post : List String) : Prop where
  split : binds = pre ++ entry :: post
  before : ∀ x ∈ pre, bindsDisk d x = false
  binds_entry : bindsDisk d entry = true

theorem firstBind_or_unbound (d : DiskId) (binds : List String) :
    (∃ pre entry post, FirstBind d binds pre entry post) ∨ ∀ x ∈ binds, bindsDisk d x = false := by
  induction binds with
  | nil => exact .inr fun x hx => absurd hx List.not_mem_nil
  | cons x rest ih =>
    cases hx : bindsDisk d x with
    | true => exact .inl ⟨[], x, rest, ⟨rfl, fun y hy => absurd hy List.not_mem_nil, hx⟩⟩
    | false =>
      rcases ih with ⟨pre, entry, post, hfirst⟩ | hnone
      · refine .inl ⟨x :: pre, entry, post, ⟨by rw [hfirst.split]; rfl, ?_, hfirst.binds_entry⟩⟩
        intro y hy
        rcases List.mem_cons.1 hy with rfl | hy
        · exact hx
        · exact hfirst.before y hy
      · refine .inr fun y hy => ?_
        rcases List.mem_cons.1 hy with rfl | hy
        · exact hx
        · exact hnone y hy

theorem FirstBind.findIdx? {d : DiskId} {binds pre post : List String} {entry : String}
    (h : FirstBind d binds pre entry post) : binds.findIdx? (bindsDisk d) = some pre.length := by
  rw [h.split, List.findIdx?_append, List.findIdx?_eq_none_iff.2 h.before]
  simp [List.findIdx?_cons, h.binds_entry]

theorem FirstBind.countP {d : DiskId} {binds pre post : List String} {entry : String}
    (h : FirstBind d binds pre entry post) :
    binds.countP (bindsDisk d) = post.countP (bindsDisk d) + 1 := by
  have hpre : pre.countP (bindsDisk d) = 0 := List.countP_eq_zero.2 fun x hx => by
    simp [h.before x hx]
  rw [h.split, List.countP_append, List.countP_cons_of_pos h.binds_entry, hpre]
  omega

/-! ## The two equations of a change -/

section Equations

variable {binds : List String} {d : DiskId} {path : String}

theorem attach_of_firstBind {pre post : List String} {entry : String} (hpath : path ≠ "")
    (h : FirstBind d binds pre entry post) :
    applyBindChange binds d (.attach path) = .ok (pre ++ bindEntry d path :: post) := by
  have hidx : binds.findIdx? (·.startsWith (d.value ++ ":")) = some pre.length := h.findIdx?
  simp only [applyBindChange, hidx, String.isEmpty_iff, hpath, if_false]
  rw [h.split, List.set_append_right _ _ (Nat.le_refl _), Nat.sub_self, List.set_cons_zero]
  rfl

theorem attach_of_unbound (hpath : path ≠ "") (hnone : ∀ x ∈ binds, bindsDisk d x = false) :
    applyBindChange binds d (.attach path) = .ok (binds ++ [bindEntry d path]) := by
  have hidx : binds.findIdx? (·.startsWith (d.value ++ ":")) = none :=
    List.findIdx?_eq_none_iff.2 hnone
  simp only [applyBindChange, hidx, String.isEmpty_iff, hpath, if_false]
  rfl

theorem detach_of_firstBind {pre post : List String} {entry : String}
    (h : FirstBind d binds pre entry post) :
    applyBindChange binds d .detach = .ok (pre ++ post) := by
  have hidx : binds.findIdx? (·.startsWith (d.value ++ ":")) = some pre.length := h.findIdx?
  simp only [applyBindChange, hidx]
  rw [h.split, List.eraseIdx_append_of_length_le (Nat.le_refl _), Nat.sub_self,
    List.eraseIdx_cons_zero]

theorem detach_of_unbound (hnone : ∀ x ∈ binds, bindsDisk d x = false) :
    applyBindChange binds d .detach = .ok binds := by
  have hidx : binds.findIdx? (·.startsWith (d.value ++ ":")) = none :=
    List.findIdx?_eq_none_iff.2 hnone
  simp only [applyBindChange, hidx]

theorem attach_empty_path :
    applyBindChange binds d (.attach "") =
      .error (.validation s!"Mount path for disk '{d.value}' must not be empty") := rfl

end Equations

/-! ## Laws of attach and detach -/

section Laws

variable {binds : List String} {d : DiskId} {path : String}

theorem countP_eq_zero_iff_unbound :
    binds.countP (bindsDisk d) = 0 ↔ ∀ x ∈ binds, bindsDisk d x = false := by
  simp [List.countP_eq_zero]

theorem attach_countP (hpath : path ≠ "") (hle : binds.countP (bindsDisk d) ≤ 1) :
    ∃ binds', applyBindChange binds d (.attach path) = .ok binds' ∧
      binds'.countP (bindsDisk d) = 1 := by
  rcases firstBind_or_unbound d binds with ⟨pre, entry, post, h⟩ | hnone
  · refine ⟨_, attach_of_firstBind hpath h, ?_⟩
    have hpost : post.countP (bindsDisk d) = 0 := by have := h.countP; omega
    have hfirst : FirstBind d (pre ++ bindEntry d path :: post) pre (bindEntry d path) post :=
      ⟨rfl, h.before, bindsDisk_bindEntry d path⟩
    rw [hfirst.countP, hpost]
  · refine ⟨_, attach_of_unbound hpath hnone, ?_⟩
    rw [List.countP_append, countP_eq_zero_iff_unbound.2 hnone]
    simp

theorem detach_countP (hle : binds.countP (bindsDisk d) ≤ 1) :
    ∃ binds', applyBindChange binds d .detach = .ok binds' ∧
      binds'.countP (bindsDisk d) = 0 := by
  rcases firstBind_or_unbound d binds with ⟨pre, entry, post, h⟩ | hnone
  · refine ⟨_, detach_of_firstBind h, ?_⟩
    have hpost : post.countP (bindsDisk d) = 0 := by have := h.countP; omega
    rw [List.countP_append, hpost, countP_eq_zero_iff_unbound.2 h.before]
  · exact ⟨binds, detach_of_unbound hnone, countP_eq_zero_iff_unbound.2 hnone⟩

theorem attach_attach (path : String) :
    (applyBindChange binds d (.attach path) >>= fun b => applyBindChange b d (.attach path)) =
      applyBindChange binds d (.attach path) := by
  by_cases hpath : path = ""
  · subst hpath
    rfl
  rcases firstBind_or_unbound d binds with ⟨pre, entry, post, h⟩ | hnone
  · -- the replaced entry is again the first bind of the disk
    have hagain : FirstBind d (pre ++ bindEntry d path :: post) pre (bindEntry d path) post :=
      ⟨rfl, h.before, bindsDisk_bindEntry d path⟩
    rw [attach_of_firstBind hpath h]
    exact attach_of_firstBind hpath hagain
  · -- the appended entry is the only bind of the disk
    have hagain : FirstBind d (binds ++ [bindEntry d path]) binds (bindEntry d path) [] :=
      ⟨rfl, hnone, bindsDisk_bindEntry d path⟩
    rw [attach_of_unbound hpath hnone]
    exact attach_of_firstBind hpath hagain

theorem detach_detach (hle : binds.countP (bindsDisk d) ≤ 1) :
    (applyBindChange binds d .detach >>= fun b => applyBindChange b d .detach) =
      applyBindChange binds d .detach := by
  obtain ⟨binds', hdetach, hzero⟩ := detach_countP hle
  rw [hdetach]
  exact detach_of_unbound (countP_eq_zero_iff_unbound.1 hzero)

theorem detach_attach (hpath : path ≠ "") (hnone : ∀ x ∈ binds, bindsDisk d x = false) :
    (applyBindChange binds d (.attach path) >>= fun b => applyBindChange b d .detach) =
      .ok binds := by
  have hfirst : FirstBind d (binds ++ [bindEntry d path]) binds (bindEntry d path) [] :=
    ⟨rfl, hnone, bindsDisk_bindEntry d path⟩
  rw [attach_of_unbound hpath hnone]
  exact (detach_of_firstBind hfirst).trans (by rw [List.append_nil])

end Laws

/-! ## Ephemeral binds -/

theorem not_ephemeral_of_bindsDisk {d : DiskId} {entry : String} (hd : d.isEphemeral = false)
    (h : bindsDisk d entry = true) : entry.startsWith DiskId.ephemeralLeader = false := by
  rw [String.startsWith_string_eq_false_iff]
  intro hleader
  have hcolon : ':' ∉ DiskId.ephemeralLeader.toList := by decide
  rcases List.prefix_or_prefix_of_prefix (bindsDisk_iff.1 h) hleader with hle | hle
  · exact hcolon (hle.subset (by simp))
  · rcases List.prefix_concat_iff.1 hle with heq | hpre
    · exact hcolon (heq ▸ by simp)
    · rw [DiskId.isEphemeral, String.startsWith_string_eq_false_iff] at hd
      exact hd hpre

/-- A change of a disk that is not ephemeral keeps the entries that start like an ephemeral
volume's name, in their order. -/
theorem keeps_ephemeral_binds {binds binds' : List String} {d : DiskId} {change : BindChange}
    (hd : d.isEphemeral = false) (h : applyBindChange binds d change = .ok binds') :
    binds'.filter (·.startsWith DiskId.ephemeralLeader) =
      binds.filter (·.startsWith DiskId.ephemeralLeader) := by
  have hentry : ∀ path, (bindEntry d path).startsWith DiskId.ephemeralLeader = false :=
    fun path => not_ephemeral_of_bindsDisk hd (bindsDisk_bindEntry d path)
  rcases firstBind_or_unbound d binds with ⟨pre, entry, post, hfirst⟩ | hnone
  · have hold := not_ephemeral_of_bindsDisk hd hfirst.binds_entry
    cases change with
    | attach path =>
      by_cases hpath : path = ""
      · subst hpath
        simp [attach_empty_path] at h
      · rw [attach_of_firstBind hpath hfirst, Except.ok.injEq] at h
        subst h
        simp [hfirst.split, List.filter_append, hold, hentry]
    | detach =>
      rw [detach_of_firstBind hfirst, Except.ok.injEq] at h
      subst h
      simp [hfirst.split, List.filter_append, hold]
  · cases change with
    | attach path =>
      by_cases hpath : path = ""
      · subst hpath
        simp [attach_empty_path] at h
      · rw [attach_of_unbound hpath hnone, Except.ok.injEq] at h
        subst h
        simp [List.filter_append, hentry]
    | detach =>
      rw [detach_of_unbound hnone, Except.ok.injEq] at h
      rw [h]

/-! ## The laws together -/

/-- What attaching a disk at `path` and detaching it do to the list `binds`. -/
structure BindChangeLaws (binds : List String) (d : DiskId) (path : String) : Prop where
  /-- Attaching replaces the first bind of the disk in place. -/
  attach_replaces : ∀ pre entry post, FirstBind d binds pre entry post →
    applyBindChange binds d (.attach path) = .ok (pre ++ bindEntry d path :: post)
  /-- Attaching a disk that nothing binds appends its bind. -/
  attach_appends : (∀ x ∈ binds, bindsDisk d x = false) →
    applyBindChange binds d (.attach path) = .ok (binds ++ [bindEntry d path])
  /-- Detaching drops exactly the first bind of the disk. -/
  detach_drops : ∀ pre entry post, FirstBind d binds pre entry post →
    applyBindChange binds d .detach = .ok (pre ++ post)
  /-- Detaching a disk that nothing binds changes nothing. -/
  detach_keeps : (∀ x ∈ binds, bindsDisk d x = false) → applyBindChange binds d .detach = .ok binds
  /-- From at most one bind of the disk: one after an attach, none after a detach, and a
  second detach changes nothing. -/
  at_most_one : binds.countP (bindsDisk d) ≤ 1 →
    (∃ b, applyBindChange binds d (.attach path) = .ok b ∧ b.countP (bindsDisk d) = 1) ∧
    (∃ b, applyBindChange binds d .detach = .ok b ∧ b.countP (bindsDisk d) = 0) ∧
    (applyBindChange binds d .detach >>= fun b => applyBindChange b d .detach) =
      applyBindChange binds d .detach
  /-- Attaching twice is attaching once. -/
  attach_twice : (applyBindChange binds d (.attach path) >>= fun b => applyBindChange b d (.attach path)) =
    applyBindChange binds d (.attach path)
  /-- Detaching undoes an attach to a list that did not bind the disk. -/
  detach_undoes_attach : (∀ x ∈ binds, bindsDisk d x = false) →
    (applyBindChange binds d (.attach path) >>= fun b => applyBindChange b d .detach) = .ok binds
  /-- An empty path is refused. -/
  empty_path : applyBindChange binds d (.attach "") =
    .error (.validation s!"Mount path for disk '{d.value}' must not be empty")
  /-- A disk that is not ephemeral leaves the ephemeral binds as they were. -/
  ephemeral_kept : d.isEphemeral = false → ∀ change b, applyBindChange binds d change = .ok b →
    b.filter (·.startsWith DiskId.ephemeralLeader) = binds.filter (·.startsWith DiskId.ephemeralLeader)

/-- Every bind list obeys the laws of a change of any disk at a non-empty path. -/
theorem bind_change_laws {binds : List String} {d : DiskId} {path : String} (hpath : path ≠ "") :
    BindChangeLaws binds d path where
  attach_replaces _ _ _ h := attach_of_firstBind hpath h
  attach_appends := attach_of_unbound hpath
  detach_drops _ _ _ h := detach_of_firstBind h
  detach_keeps := detach_of_unbound
  at_most_one hle := ⟨attach_countP hpath hle, detach_countP hle, detach_detach hle⟩
  attach_twice := attach_attach path
  detach_undoes_attach := detach_attach hpath
  empty_path := attach_empty_path
  ephemeral_kept hd _ _ h := keeps_ephemeral_binds hd h

/-- The laws on a VM's own binds: its ephemeral volume and a disk whose name extends the
changed disk's. -/
theorem bind_change_laws_beside_longer_name :
    "/warden-cpi-dev/vol-1" ≠ "" ∧
      BindChangeLaws ["vol-eph-c-1:/var/vcap/data", "vol-10:/warden-cpi-dev/vol-10"] ⟨"vol-1"⟩
        "/warden-cpi-dev/vol-1" :=
  ⟨by decide, bind_change_laws (by decide)⟩

end ContainerCpi.Vm
