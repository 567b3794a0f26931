import ContainerCpi.Text.Basic

/-!
# Engine endpoints

Where to look for a container engine: the configured host first, then the well-known socket
locations, then the host named by the environment, each once and never an empty one.

An endpoint speaks plain HTTP when it is a local socket (`unix://`) or an `http://` address;
any other endpoint needs TLS material.  The API version is written `[v]MAJOR.MINOR`.
-/

namespace ContainerCpi.Hosts

/-- Socket locations tried after the configured host. -/
def fallbackSockets : List String :=
  ["unix:///var/run/docker.sock", "unix:///docker.sock", "unix:///var/vcap/sys/run/docker.sock"]

/-- Endpoints to try, in order and without repeats. -/
def candidates (configured : String) (fromEnv : Option String) : List String :=
  let all := configured :: fallbackSockets ++ fromEnv.toList
  all.foldl (fun acc h => if h.isEmpty || acc.contains h then acc else acc ++ [h]) []

/-- Whether an endpoint is reached over a local socket. -/
def isSocket (host : String) : Bool := host.startsWith "unix://"

/-- Whether an endpoint is reached over plain HTTP. -/
def isPlainHttp (host : String) : Bool := host.startsWith "http://"

/-- Whether an endpoint needs TLS material. -/
def requiresTls (host : String) : Bool := !(isSocket host || isPlainHttp host)

/-- An unsigned machine-word decimal: an optional `+`, then one or more digits. -/
def parseWord? (s : String) : Option Nat :=
  let ds := match s.toList with
    | '+' :: ds => ds
    | ds => ds
  if ds.isEmpty || !ds.all Char.isDigit then none
  else
    let v := ds.foldl (fun acc c => acc * 10 + (c.toNat - 48)) 0
    if v < Nat.pow 2 64 then some v else none

/-- The API version `[v]MAJOR.MINOR` as its two numbers (any number of leading `v`s). -/
def parseApiVersion? (version : String) : Option (Nat × Nat) := do
  let (major, minor) ← Text.splitOnce (Text.trimStartChar version 'v') '.'
  let a ← parseWord? major
  let b ← parseWord? minor
  return (a, b)

end ContainerCpi.Hosts
