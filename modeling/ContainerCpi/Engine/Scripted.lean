import ContainerCpi.Engine.Wire

/-!
# A scripted engine

An engine endpoint that answers HTTP requests from a script, for running the HTTP client of
`Engine.Wire` without a real engine.  A script is a list of rules.  Each request is answered
by the first rule that matches it and still has uses left; a request no rule matches gets the
daemon's fallback answer.  A rule may delay its answer.

Time is a clock that moves only when an answer is delayed or the client sleeps.  Work
bounded by a time limit stops at its deadline: when the clock would reach or pass the earliest
deadline in force, it stops there and the work bounded by that deadline ends without a
result.  Of two limits with the same deadline the inner one ends first, and the work around
it goes on.
-/

namespace ContainerCpi

namespace Glob

/-- Whether `text` matches `pattern`, in which `*` matches any run of characters (`/`
included) and every other character itself. -/
def accepts : List Char → List Char → Bool
  | [], text => text.isEmpty
  | '*' :: rest, text =>
    accepts rest text ||
      match text with
      | [] => false
      | _ :: more => accepts ('*' :: rest) more
  | c :: rest, text =>
    match text with
    | [] => false
    | d :: more => c == d && accepts rest more
termination_by pattern text => pattern.length + text.length

end Glob

/-- One scripted answer and the requests it answers. -/
structure Rule where
  /-- The method it answers, or any. -/
  method : Option String
  /-- A pattern for the request path. -/
  path : String
  /-- Patterns that named query parameters must match. -/
  query : List (String × String)
  status : Nat
  body : List UInt8
  /-- How many more requests it answers, or without end. -/
  uses : Option Nat
  /-- How long the answer takes. -/
  delay : Duration
  deriving Inhabited

namespace Rule

/-- Whether the rule answers a request: it has uses left, and the method, the path and every
named query parameter match. -/
def answers (r : Rule) (q : Http.Request) : Bool :=
  r.uses != some 0 && r.method.all (· == q.method.name) &&
    Glob.accepts r.path.toList q.path.toList &&
    r.query.all fun (k, pattern) =>
      match q.query.lookup k with
      | some v => Glob.accepts pattern.toList v.toList
      | none => false

/-- The rule after answering once more. -/
def use (r : Rule) : Rule := { r with uses := r.uses.map (· - 1) }

/-- The first rule of a script that answers a request, and the script after its use. -/
def pick (q : Http.Request) : List Rule → Option (Rule × List Rule)
  | [] => none
  | r :: rs =>
    if r.answers q then some (r, r.use :: rs)
    else (pick q rs).map fun (hit, rest) => (hit, r :: rest)

end Rule

/-- A scripted engine endpoint. -/
structure Daemon where
  rules : List Rule
  /-- The answer to a request that no rule answers. -/
  fallback : Http.Request → Http.Response
  /-- The requests received, oldest first. -/
  received : List Http.Request
  deriving Inhabited

namespace Daemon

/-- Receive a request: the answer, how long it takes, and the daemon after it. -/
def serve (d : Daemon) (q : Http.Request) : (Http.Response × Duration) × Daemon :=
  let d := { d with received := d.received ++ [q] }
  match Rule.pick q d.rules with
  | some (r, rules) => ((⟨r.status, r.body⟩, r.delay), { d with rules })
  | none => ((d.fallback q, ⟨0⟩), d)

end Daemon

/-- A client of a scripted daemon, with its clock and deterministic identities. -/
structure ScriptedHost where
  daemon : Daemon
  /-- Nanoseconds since the start. -/
  now : Nat
  /-- The deadlines of the time limits in force, innermost first. -/
  deadlines : List Nat
  /-- Identities drawn so far. -/
  drawn : Nat
  deriving Inhabited

/-- Work stopped because the clock reached a deadline. -/
structure Late where
  deadline : Nat
  deriving Inhabited

/-- Work against a scripted daemon, which a deadline can stop. -/
abbrev Scripted := ExceptT Late (StateM ScriptedHost)

namespace ScriptedHost

/-- A host with a fresh daemon and clock. -/
def start (daemon : Daemon) : ScriptedHost := ⟨daemon, 0, [], 0⟩

/-- Let `span` nanoseconds pass, stopping at the earliest deadline in force if the clock
would reach it. -/
def advance (span : Nat) : Scripted Unit := do
  let h ← get
  let target := h.now + span
  match h.deadlines.min? with
  | some first =>
    if first ≤ target then
      set { h with now := first }
      throw ⟨first⟩
    else set { h with now := target }
  | none => set { h with now := target }

/-- Run work with a time limit: none when the clock reaches its deadline first. -/
def within {α : Type} (limit : Duration) (work : Scripted α) : Scripted (Option α) := do
  let deadline := (← get).now + limit.nanos
  modify fun h => { h with deadlines := deadline :: h.deadlines }
  let r ← tryCatch (Except.ok <$> work) (fun late => pure (.error late))
  modify fun h => { h with deadlines := h.deadlines.drop 1 }
  match r with
  | .ok a => pure (some a)
  | .error late => if late.deadline == deadline then pure none else throw late

/-- Send a request and wait for its answer. -/
def exchange (q : Http.Request) : Scripted Http.Response := do
  let h ← get
  let ((response, delay), daemon) := h.daemon.serve q
  set { h with daemon }
  advance delay.nanos
  pure response

/-- The engine reached through the scripted daemon. -/
def backend : Backend Scripted :=
  Backend.overHttp (fun q => Except.ok <$> exchange q) (fun d => advance d.nanos) within
    (modifyGet fun h => (countedUuid (h.drawn + 1), { h with drawn := h.drawn + 1 }))

end ScriptedHost

end ContainerCpi
