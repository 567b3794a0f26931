import ContainerCpi.Engine.Discovery
import ContainerCpi.Proofs.Text.Search
import ContainerCpi.Proofs.Text.Decimal

/-!
# Finding an engine: endpoints tried in order

The endpoints tried are the configured one, the well-known sockets and the one the
environment names, empty ones dropped and each once, in the order they first appear
(`candidates_eq_eraseDups`).

What discovery does to the world is observed in `Dialled`: a run that reports each socket it
looks up and each ping it sends, in order.  A `World` fixes, for every endpoint, whether its
socket exists, whether a ping along a route answers within the time limit and what it
answers, so that each endpoint's attempt has one outcome.  In every world
(`connect_discovers`): a bad API version fails before anything is dialled, and only then;
otherwise the endpoints are tried in order, the first whose attempt succeeds is the result and
no later one is tried, and when none succeeds the failure lists every endpoint and then one
reason per endpoint, in the same order.  An endpoint that needs TLS material when there is
none fails without being dialled.
-/

namespace ContainerCpi

/-! ## The endpoints tried -/

namespace Hosts

/-- Keeping each non-empty endpoint not yet kept adds, to what is kept, the non-empty new
endpoints without repeats, in the order they first appear. -/
theorem foldl_keep_new (acc hosts : List String) :
    hosts.foldl (fun acc h => if h.isEmpty || acc.contains h then acc else acc ++ [h]) acc =
      acc ++ (hosts.filter fun h => !h.isEmpty && !acc.contains h).eraseDups := by
  induction hosts generalizing acc with
  | nil => simp
  | cons h rest ih =>
    rw [List.foldl_cons]
    by_cases hskip : (h.isEmpty || acc.contains h) = true
    · have hdrop : (!h.isEmpty && !acc.contains h) = false := by
        rw [Bool.or_eq_true] at hskip
        rcases hskip with hskip | hskip
        · rw [hskip]
          rfl
        · rw [hskip, Bool.not_true, Bool.and_false]
      rw [if_pos hskip, ih, List.filter_cons, if_neg (by rw [hdrop]; decide)]
    · have hkeep : (!h.isEmpty && !acc.contains h) = true := by
        simpa [not_or] using hskip
      rw [if_neg hskip, ih, List.filter_cons, if_pos hkeep, List.eraseDups_cons, List.append_assoc,
        List.singleton_append, List.filter_filter]
      -- keeping `h` too is filtering out the repeats of `h` afterwards
      congr 3
      refine List.filter_congr fun b _ => ?_
      simp only [List.contains_append, List.contains_cons, List.contains_nil, Bool.or_false]
      cases b.isEmpty <;> cases acc.contains b <;> cases b == h <;> rfl

theorem candidates_eq_eraseDups (configured : String) (fromEnv : Option String) :
    candidates configured fromEnv =
      ((configured :: fallbackSockets ++ fromEnv.toList).filter fun h => !h.isEmpty).eraseDups := by
  unfold candidates
  rw [foldl_keep_new, List.nil_append]
  simp

theorem first_socket_mem_candidates (configured : String) (fromEnv : Option String) :
    "unix:///var/run/docker.sock" ∈ candidates configured fromEnv := by
  rw [candidates_eq_eraseDups, List.mem_eraseDups, List.mem_filter]
  exact ⟨by simp [fallbackSockets], by decide⟩

/-! ## The API version -/

theorem parseWord?_eq_some_iff {s : String} {n : Nat} :
    parseWord? s = some n ↔ Text.UnsignedDecimal s n ∧ n < Nat.pow 2 64 :=
  @Text.readBounded_eq_some_iff s n (· < Nat.pow 2 64) _

/-- `version` is API version `major.minor`: after its leading `v`s, the text before the first
`.` and the text after it are unsigned decimals below 2^64. -/
def ApiVersion (version : String) (major minor : Nat) : Prop :=
  ∃ x y, Text.trimStartChar version 'v' = x ++ "." ++ y ∧ '.' ∉ x.toList ∧
    Text.UnsignedDecimal x major ∧ major < Nat.pow 2 64 ∧
    Text.UnsignedDecimal y minor ∧ minor < Nat.pow 2 64

theorem parseApiVersion?_eq_some_iff {version : String} {major minor : Nat} :
    parseApiVersion? version = some (major, minor) ↔ ApiVersion version major minor := by
  unfold parseApiVersion? ApiVersion
  constructor
  · intro h
    rcases hsplit : Text.splitOnce (Text.trimStartChar version 'v') '.' with _ | ⟨x, y⟩
    · simp [hsplit] at h
    · obtain ⟨htext, hx⟩ := Text.eq_of_splitOnce_eq_some hsplit
      simp only [hsplit, Option.bind_eq_bind, Option.bind_some, Option.bind_eq_some_iff,
        Option.pure_def, Option.some.injEq, Prod.mk.injEq] at h
      obtain ⟨a, ha, b, hb, rfl, rfl⟩ := h
      exact ⟨x, y, htext, hx, (parseWord?_eq_some_iff.1 ha).1, (parseWord?_eq_some_iff.1 ha).2,
        (parseWord?_eq_some_iff.1 hb).1, (parseWord?_eq_some_iff.1 hb).2⟩
  · rintro ⟨x, y, htext, hx, hmajor, hmajor_lt, hminor, hminor_lt⟩
    have hsplit : Text.splitOnce (Text.trimStartChar version 'v') '.' = some (x, y) := by
      rw [htext, show ("." : String) = String.singleton '.' from rfl]
      exact Text.splitOnce_append hx
    have ha : parseWord? x = some major := parseWord?_eq_some_iff.2 ⟨hmajor, hmajor_lt⟩
    have hb : parseWord? y = some minor := parseWord?_eq_some_iff.2 ⟨hminor, hminor_lt⟩
    simp [hsplit, ha, hb]

theorem parseApiVersion?_eq_none_iff {version : String} :
    parseApiVersion? version = none ↔ ¬∃ major minor, ApiVersion version major minor := by
  simp only [← parseApiVersion?_eq_some_iff, not_exists]
  constructor
  · intro h major minor hsome
    rw [h] at hsome
    cases hsome
  · intro h
    cases hv : parseApiVersion? version with
    | none => rfl
    | some v => exact absurd hv (h v.1 v.2)

end Hosts

namespace Discovery

/-! ## A world of endpoints -/

/-- What discovery does to the world: look a socket path up, or send a ping along a route. -/
inductive Dial where
  | lookup (path : String)
  | ping (r : Route)

/-- A run that reports what it did to the world, in order. -/
def Dialled (α : Type) : Type := α × List Dial

instance : Monad Dialled where
  pure a := (a, [])
  bind p f := ((f p.1).1, p.2 ++ (f p.1).2)

@[simp] theorem Dialled.pure_eq {α : Type} (a : α) : (pure a : Dialled α) = (a, []) := rfl

@[simp] theorem Dialled.bind_eq {α β : Type} (p : Dialled α) (f : α → Dialled β) :
    (p >>= f) = ((f p.1).1, p.2 ++ (f p.1).2) := rfl

/-- Endpoints of fixed behaviour: which socket paths exist, which routes do not answer a ping
within its time limit, and what each route answers. -/
structure World where
  sockets : String → Bool
  late : Route → Bool
  reply : Route → Http.Request → Except ClientError Http.Response

/-- Whether a dial waits past the time limit. -/
def Dial.late (w : World) : Dial → Bool
  | .lookup _ => false
  | .ping r => w.late r

/-- Reaching the endpoints of a world, reporting every dial. -/
def World.network (w : World) : Network Dialled where
  socketExists path := (w.sockets path, [.lookup path])
  send r q := (w.reply r q, [.ping r])
  sleep _ := pure ()
  within _ work := (if work.2.any (Dial.late w) then none else some work.1, work.2)
  freshUuid := pure ""

/-- The endpoint a dial reaches: a socket path under the socket scheme, or the address of a
route over the network. -/
def Dial.endpoint : Dial → String
  | .lookup path => socketScheme ++ path
  | .ping (.socket path) => socketScheme ++ path
  | .ping (.plain address) => address
  | .ping (.secure address _) => address

variable (w : World)

@[simp] theorem World.socketExists_fst (path : String) :
    (w.network.socketExists path).1 = w.sockets path := rfl

@[simp] theorem World.socketExists_snd (path : String) :
    (w.network.socketExists path).2 = [.lookup path] := rfl

@[simp] theorem World.send_fst (r : Route) (q : Http.Request) : (w.network.send r q).1 = w.reply r q :=
  rfl

@[simp] theorem World.send_snd (r : Route) (q : Http.Request) : (w.network.send r q).2 = [.ping r] :=
  rfl

@[simp] theorem World.within_fst {α : Type} (d : Duration) (work : Dialled α) :
    (w.network.within d work).1 = if work.2.any (Dial.late w) then none else some work.1 := rfl

@[simp] theorem World.within_snd {α : Type} (d : Duration) (work : Dialled α) :
    (w.network.within d work).2 = work.2 := rfl

/-! ## One endpoint -/

variable (opts : DockerOpts) (version : Nat × Nat)

theorem socketScheme_append_path {host : String} (h : Hosts.isSocket host = true) :
    socketScheme ++ (Text.stripPrefix? host socketScheme).getD host = host := by
  have hpre : socketScheme.toList <+: host.toList := by
    simpa [Hosts.isSocket, socketScheme, String.startsWith_string_iff] using h
  have hprefix : socketScheme.toList.isPrefixOf host.toList = true := List.isPrefixOf_iff_prefix.2 hpre
  obtain ⟨rest, hrest⟩ := hpre
  apply String.toList_injective
  simp only [Text.stripPrefix?, hprefix, if_true, Option.getD_some, String.toList_append,
    String.toList_ofList]
  rw [← String.length_toList, ← hrest, List.drop_left]

theorem route_dials (host : String) :
    ∀ d ∈ (route w.network opts host).2, d.endpoint = host := by
  intro d hd
  unfold route at hd
  split at hd
  · rename_i hsocket
    simp only [Dialled.bind_eq, World.socketExists_fst, World.socketExists_snd] at hd
    rw [List.mem_append, List.mem_singleton] at hd
    rcases hd with rfl | hd
    · exact socketScheme_append_path hsocket
    · by_cases hex : w.sockets ((Text.stripPrefix? host socketScheme).getD host) = true <;>
        simp [hex] at hd
  · split at hd
    · simp at hd
    · split at hd <;> simp at hd

theorem route_endpoint {host : String} {r : Route} (h : (route w.network opts host).1 = .ok r) :
    (Dial.ping r).endpoint = host := by
  unfold route at h
  split at h
  · rename_i hsocket
    simp only [Dialled.bind_eq, World.socketExists_fst, World.socketExists_snd] at h
    by_cases hex : w.sockets ((Text.stripPrefix? host socketScheme).getD host) = true
    · simp only [hex, ↓reduceIte, Dialled.pure_eq, Except.ok.injEq] at h
      subst h
      exact socketScheme_append_path hsocket
    · simp [hex] at h
  · split at h
    · simp only [Dialled.pure_eq, Except.ok.injEq] at h
      subst h
      rfl
    · split at h <;> simp only [Dialled.pure_eq, Except.ok.injEq, reduceCtorEq] at h
      subst h
      rfl

theorem ping_dials (r : Route) : ∀ d ∈ (ping w.network version r).2, d = .ping r := by
  intro d hd
  unfold ping at hd
  split at hd
  · simp at hd
  · simp only [Dialled.bind_eq, World.within_fst, World.within_snd, World.send_fst, World.send_snd] at hd
    rw [List.mem_append, List.mem_singleton] at hd
    rcases hd with hd | hd
    · exact hd
    · split at hd <;> simp at hd

theorem attempt_dials (host : String) :
    ∀ d ∈ (attempt w.network opts version host).2, d.endpoint = host := by
  intro d hd
  unfold attempt at hd
  simp only [Dialled.bind_eq, List.mem_append] at hd
  rcases hd with hd | hd
  · exact route_dials w opts host d hd
  · -- after a route is found, only its ping is sent
    split at hd
    · simp at hd
    · rename_i r hroute
      simp only [List.mem_append] at hd
      rcases hd with hd | hd
      · rw [ping_dials w version r d hd]
        exact route_endpoint w opts hroute
      · split at hd <;> simp at hd

theorem attempt_without_tls {host : String} (htls : Hosts.requiresTls host = true)
    (hnone : opts.tls = none) :
    attempt w.network opts version host =
      (.error (CpiError.configuration ("host '" ++ host ++ "' requires TLS credentials")).message, []) := by
  simp only [Hosts.requiresTls, Bool.not_eq_true', Bool.or_eq_false_iff] at htls
  unfold attempt route
  simp only [htls.1, htls.2, hnone, Bool.false_eq_true, Dialled.bind_eq, Dialled.pure_eq]
  rfl

theorem route_socket_dials {host : String} (hsocket : Hosts.isSocket host = true) :
    (route w.network opts host).2 = [.lookup ((Text.stripPrefix? host socketScheme).getD host)] := by
  unfold route
  rw [if_pos hsocket]
  simp only [Dialled.bind_eq, World.socketExists_fst, World.socketExists_snd]
  by_cases hex : w.sockets ((Text.stripPrefix? host socketScheme).getD host) = true <;> simp [hex]

theorem attempt_socket_dials {host : String} (hsocket : Hosts.isSocket host = true) :
    (attempt w.network opts version host).2 ≠ [] := by
  unfold attempt
  simp only [Dialled.bind_eq, route_socket_dials w opts hsocket]
  simp

/-! ## The endpoints in order -/

theorem first_ok_or_all_error {α ε β : Type} (f : α → Except ε β) (l : List α) :
    (∃ pre a post b, l = pre ++ a :: post ∧ (∀ p ∈ pre, ∃ e, f p = .error e) ∧ f a = .ok b) ∨
      ∃ es, List.Forall₂ (fun a e => f a = .error e) l es := by
  induction l with
  | nil => exact .inr ⟨[], .nil⟩
  | cons x rest ih =>
    cases hx : f x with
    | ok b => exact .inl ⟨[], x, rest, b, rfl, fun p hp => absurd hp List.not_mem_nil, hx⟩
    | error e =>
      rcases ih with ⟨pre, a, post, b, rfl, hpre, ha⟩ | ⟨es, hes⟩
      · refine .inl ⟨x :: pre, a, post, b, rfl, fun p hp => ?_, ha⟩
        rcases List.mem_cons.1 hp with rfl | hp
        · exact ⟨e, hx⟩
        · exact hpre p hp
      · exact .inr ⟨e :: es, .cons hx hes⟩

variable {w opts version}

theorem firstAnswering_cons_ok {host : String} {rest : List String} {r : Route}
    (h : (attempt w.network opts version host).1 = .ok r) :
    firstAnswering w.network opts version (host :: rest) =
      (.ok (host, r), (attempt w.network opts version host).2) := by
  rw [firstAnswering]
  simp only [Dialled.bind_eq, h, Dialled.pure_eq, List.append_nil]
  rfl

theorem firstAnswering_found {pre post : List String} {host : String} {r : Route}
    (hpre : ∀ p ∈ pre, ∃ f, (attempt w.network opts version p).1 = .error f)
    (hhost : (attempt w.network opts version host).1 = .ok r) :
    firstAnswering w.network opts version (pre ++ host :: post) =
      (.ok (host, r), (pre ++ [host]).flatMap fun p => (attempt w.network opts version p).2) := by
  induction pre with
  | nil => simpa using firstAnswering_cons_ok hhost
  | cons p pre ih =>
    obtain ⟨f, hf⟩ := hpre p List.mem_cons_self
    rw [List.cons_append, firstAnswering]
    -- the binds are opened before the rest of the run is replaced by what it gives
    simp only [Dialled.bind_eq]
    simp [hf, ih fun q hq => hpre q (List.mem_cons_of_mem p hq)]
    rfl

theorem firstAnswering_all_fail {hosts failures : List String}
    (hfail : List.Forall₂ (fun p f => (attempt w.network opts version p).1 = .error f) hosts failures) :
    firstAnswering w.network opts version hosts =
      (.error failures, hosts.flatMap fun p => (attempt w.network opts version p).2) := by
  induction hfail with
  | nil => rfl
  | cons hf _ ih =>
    rw [firstAnswering]
    simp only [Dialled.bind_eq]
    simp [hf, ih]
    rfl

variable {fromEnv : Option String}

theorem connect_of_bad_version (h : Hosts.parseApiVersion? opts.apiVersion = none) :
    connect w.network opts fromEnv =
      (.error (.configuration ("invalid api_version '" ++ opts.apiVersion ++ "'")), []) := by
  unfold connect
  rw [h]
  rfl

theorem connect_found (h : Hosts.parseApiVersion? opts.apiVersion = some version)
    {pre post : List String} {host : String} {r : Route}
    (hhosts : Hosts.candidates opts.host fromEnv = pre ++ host :: post)
    (hpre : ∀ p ∈ pre, ∃ f, (attempt w.network opts version p).1 = .error f)
    (hhost : (attempt w.network opts version host).1 = .ok r) :
    connect w.network opts fromEnv =
      (.ok (host, r), (pre ++ [host]).flatMap fun p => (attempt w.network opts version p).2) := by
  unfold connect
  rw [h]
  dsimp only
  rw [hhosts, Dialled.bind_eq, firstAnswering_found hpre hhost]
  simp
  rfl

theorem connect_all_fail (h : Hosts.parseApiVersion? opts.apiVersion = some version)
    {failures : List String}
    (hfail : List.Forall₂ (fun p f => (attempt w.network opts version p).1 = .error f)
      (Hosts.candidates opts.host fromEnv) failures) :
    connect w.network opts fromEnv =
      (.error (.configuration ("no reachable Docker endpoint (tried " ++
          ", ".intercalate (Hosts.candidates opts.host fromEnv) ++ "): " ++ "; ".intercalate failures)),
        (Hosts.candidates opts.host fromEnv).flatMap fun p => (attempt w.network opts version p).2) := by
  unfold connect
  rw [h]
  dsimp only
  rw [Dialled.bind_eq, firstAnswering_all_fail hfail]
  simp only [Dialled.pure_eq, List.append_nil]
  rfl

theorem connect_fails_undialled_iff :
    (∃ message, connect w.network opts fromEnv = (.error (.configuration message), [])) ↔
      Hosts.parseApiVersion? opts.apiVersion = none := by
  constructor
  · rintro ⟨message, hrun⟩
    cases hversion : Hosts.parseApiVersion? opts.apiVersion with
    | none => rfl
    | some version =>
      rcases first_ok_or_all_error (fun p => (attempt w.network opts version p).1)
          (Hosts.candidates opts.host fromEnv) with ⟨pre, host, post, r, hhosts, hpre, hhost⟩ | ⟨fs, hfail⟩
      · rw [connect_found hversion hhosts hpre hhost] at hrun
        have hresult := congrArg Prod.fst hrun
        simp at hresult
      · rw [connect_all_fail hversion hfail] at hrun
        have hdials := List.flatMap_eq_nil_iff.1 (congrArg Prod.snd hrun)
        -- the first well-known socket was tried, and a socket is always looked up
        have hsocket := hdials _ (Hosts.first_socket_mem_candidates opts.host fromEnv)
        have hscheme : Hosts.isSocket "unix:///var/run/docker.sock" = true := by
          rw [Hosts.isSocket, String.startsWith_string_iff]
          decide
        exact absurd hsocket (attempt_socket_dials w opts version hscheme)
  · intro h
    exact ⟨_, connect_of_bad_version h⟩

/-! ## Discovery in every world -/

/-- What discovery does in world `w` for options `opts` and the environment's endpoint
`fromEnv`. -/
structure Discovers (w : World) (opts : DockerOpts) (fromEnv : Option String) : Prop where
  /-- The endpoints tried: non-empty, each once, in the order they first appear. -/
  tried : Hosts.candidates opts.host fromEnv =
    ((opts.host :: Hosts.fallbackSockets ++ fromEnv.toList).filter fun h => !h.isEmpty).eraseDups
  /-- A bad API version fails before anything is dialled. -/
  bad_version : (¬∃ major minor, Hosts.ApiVersion opts.apiVersion major minor) →
    connect w.network opts fromEnv =
      (.error (.configuration ("invalid api_version '" ++ opts.apiVersion ++ "'")), [])
  /-- Nothing is dialled before a failure only when the API version is bad. -/
  undialled_iff : (∃ message, connect w.network opts fromEnv = (.error (.configuration message), [])) ↔
    ¬∃ major minor, Hosts.ApiVersion opts.apiVersion major minor
  /-- The first endpoint whose attempt succeeds is found, and no later one is tried. -/
  first_answer : ∀ major minor, Hosts.ApiVersion opts.apiVersion major minor →
    ∀ pre host post r, Hosts.candidates opts.host fromEnv = pre ++ host :: post →
      (∀ p ∈ pre, ∃ f, (attempt w.network opts (major, minor) p).1 = .error f) →
      (attempt w.network opts (major, minor) host).1 = .ok r →
      connect w.network opts fromEnv =
        (.ok (host, r), (pre ++ [host]).flatMap fun p => (attempt w.network opts (major, minor) p).2)
  /-- When no attempt succeeds, every endpoint was tried, and the failure names them all and
  then one reason per endpoint, in order. -/
  none_answers : ∀ major minor, Hosts.ApiVersion opts.apiVersion major minor → ∀ failures,
    List.Forall₂ (fun p f => (attempt w.network opts (major, minor) p).1 = .error f)
      (Hosts.candidates opts.host fromEnv) failures →
    connect w.network opts fromEnv =
      (.error (.configuration ("no reachable Docker endpoint (tried " ++
          ", ".intercalate (Hosts.candidates opts.host fromEnv) ++ "): " ++ "; ".intercalate failures)),
        (Hosts.candidates opts.host fromEnv).flatMap fun p => (attempt w.network opts (major, minor) p).2)
  /-- An attempt dials its own endpoint only. -/
  own_dials : ∀ version host, ∀ d ∈ (attempt w.network opts version host).2, d.endpoint = host
  /-- An endpoint that needs TLS material fails undialled when there is none. -/
  tls_undialled : ∀ version host, Hosts.requiresTls host = true → opts.tls = none →
    attempt w.network opts version host =
      (.error (CpiError.configuration ("host '" ++ host ++ "' requires TLS credentials")).message, [])

/-- In every world, discovery tries the endpoints in order and accounts for each. -/
theorem connect_discovers (w : World) (opts : DockerOpts) (fromEnv : Option String) :
    Discovers w opts fromEnv where
  tried := Hosts.candidates_eq_eraseDups opts.host fromEnv
  bad_version h := connect_of_bad_version (Hosts.parseApiVersion?_eq_none_iff.2 h)
  undialled_iff := connect_fails_undialled_iff.trans Hosts.parseApiVersion?_eq_none_iff
  first_answer _ _ hversion _ _ _ _ hhosts hpre hhost :=
    connect_found (Hosts.parseApiVersion?_eq_some_iff.2 hversion) hhosts hpre hhost
  none_answers _ _ hversion _ hfail := connect_all_fail (Hosts.parseApiVersion?_eq_some_iff.2 hversion) hfail
  own_dials version host := attempt_dials w opts version host
  tls_undialled version _ htls hnone := attempt_without_tls w opts version htls hnone

end Discovery

end ContainerCpi
