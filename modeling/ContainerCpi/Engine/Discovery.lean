import ContainerCpi.Engine.Scripted
import ContainerCpi.Engine.WorkDir
import ContainerCpi.Config.Settings
import ContainerCpi.Net.Url

/-!
# Finding a reachable engine

The configured endpoint is tried first, then the well-known socket locations, then the
endpoint named by the environment (`Hosts.candidates`).  The first one that answers a ping
within five seconds is the engine.

An endpoint is reached over a local socket (`unix://`, which must exist), plain HTTP
(`http://`) or HTTPS with the configured client credentials (anything else; without
credentials it cannot be used).  Over the network, the client reads the endpoint as a web
address before its first request (`Route.authority?`), so an address that is no web address
fails its ping.  Every endpoint that fails adds its reason, and when none
answers the failure lists them all after the endpoints tried:
`no reachable Docker endpoint (tried h1, h2): f1; f2`.  An API version that is not
`[v]MAJOR.MINOR` fails before any endpoint is tried.
-/

namespace ContainerCpi

/-- How a client reaches an endpoint. -/
inductive Route where
  /-- A local socket at a path. -/
  | socket (path : String)
  /-- Plain HTTP to an address. -/
  | plain (address : String)
  /-- HTTPS to an address, with client credentials. -/
  | secure (address : String) (tls : TlsOpts)
  deriving DecidableEq, Repr

/-- The path of the first request to an engine speaking API version `major.minor`: the
versioned ping. -/
def pingPath (version : Nat × Nat) : String :=
  let (major, minor) := version
  s!"/v{major}.{minor}/_ping"

/-- The host and port the client reads for an endpoint reached over the network, speaking
API version `major.minor`: the web address is the endpoint with its first `tcp://` and then
its first `http://` (`https://` for HTTPS) removed, wherever they stand, followed by the
versioned path, so that an empty endpoint leaves the version as the host.  None for a
socket. -/
def Route.authority? (version : Nat × Nat) :
    Route → Option (Except Net.UrlError (Net.UrlHost × Option Nat))
  | .socket _ => none
  | .plain host =>
    let address := Text.removeFirst (Text.removeFirst host "tcp://") "http://"
    some (Net.Url.authority ("//" ++ address ++ pingPath version))
  | .secure host _ =>
    let address := Text.removeFirst (Text.removeFirst host "tcp://") "https://"
    some (Net.Url.authority ("//" ++ address ++ pingPath version))

/-- What reaching an engine needs of the world, in monad `m`: whether a socket exists, one
request sent over a route, a clock with time limits, and fresh identities. -/
structure Network (m : Type → Type) where
  socketExists : String → m Bool
  send : Route → Http.Request → m (Except ClientError Http.Response)
  sleep : Duration → m Unit
  within : {α : Type} → Duration → m α → m (Option α)
  freshUuid : m String

/-- The engine at the end of a route. -/
def Network.engine {m : Type → Type} [Monad m] (net : Network m) (r : Route) : Backend m :=
  Backend.overHttp (net.send r) net.sleep net.within net.freshUuid

namespace Discovery

/-- How long an endpoint may take to answer a ping. -/
def pingLimit : Duration := Duration.ofSecs 5

/-- The socket scheme. -/
def socketScheme : String := "unix://"

variable {m : Type → Type} [Monad m] (net : Network m)

/-- The route to an endpoint, or why it cannot be used. -/
def route (opts : DockerOpts) (host : String) : m (Except CpiError Route) := do
  if Hosts.isSocket host then
    let path := (Text.stripPrefix? host socketScheme).getD host
    if ← net.socketExists path then return .ok (.socket path)
    else return .error (.configuration s!"{host}: Socket not found: {path}")
  else if Hosts.isPlainHttp host then return .ok (.plain host)
  else
    match opts.tls with
    | some tls => return .ok (.secure host tls)
    | none => return .error (.configuration s!"host '{host}' requires TLS credentials")

/-- Ping an endpoint with API version `version`: nothing when it answers, else why not. -/
def ping (version : Nat × Nat) (r : Route) : m (Except String Unit) := do
  if let some (.error e) := r.authority? version then
    let why := e.message
    return .error s!"Unable to parse URL: {why}"
  match ← net.within pingLimit (net.send r Call.ping.request) with
  | none =>
    let limit := pingLimit.debug
    return .error s!"ping timed out after {limit}"
  | some (.error e) => return .error e.message
  | some (.ok response) =>
    return if response.isSuccess then .ok () else .error response.failure.message

/-- Try one endpoint: the route to it when it answers a ping, else why not. -/
def attempt (opts : DockerOpts) (version : Nat × Nat) (host : String) : m (Except String Route) := do
  match ← route net opts host with
  | .error e => pure (.error e.message)
  | .ok r => do
    match ← ping net version r with
    | .ok () => pure (.ok r)
    | .error reason => pure (.error s!"{host}: {reason}")

/-- Try endpoints in order: the first that answers a ping, or the reasons of all that did
not, in order. -/
def firstAnswering (opts : DockerOpts) (version : Nat × Nat) :
    List String → m (Except (List String) (String × Route))
  | [] => return .error []
  | host :: rest => do
    match ← attempt net opts version host with
    | .ok r => return .ok (host, r)
    | .error failure =>
      match ← firstAnswering opts version rest with
      | .ok found => return .ok found
      | .error reasons => return .error (failure :: reasons)

/-- Connect to the first endpoint that answers, with the endpoint named by the environment
as the last resort. -/
def connect (opts : DockerOpts) (fromEnv : Option String) : m (CpiResult (String × Route)) := do
  match Hosts.parseApiVersion? opts.apiVersion with
  | none =>
    let v := opts.apiVersion
    return .error (.configuration s!"invalid api_version '{v}'")
  | some version =>
    let hosts := Hosts.candidates opts.host fromEnv
    match ← firstAnswering net opts version hosts with
    | .ok found => return .ok found
    | .error reasons =>
      let tried := ", ".intercalate hosts
      let why := "; ".intercalate reasons
      return .error (.configuration s!"no reachable Docker endpoint (tried {tried}): {why}")

end Discovery

/-- The wording of a connection that nothing accepts. -/
def ClientError.refused : ClientError :=
  .unreachable "Error in the hyper legacy client: client error (Connect)"

/-- The world of a scripted daemon run in a working directory: a socket path exists when
it names an entry there, the daemon answers on its own socket, and nothing else (no other
entry, no network address) accepts connections. -/
def ScriptedHost.network (dir : WorkDir) : Network Scripted where
  socketExists path := pure (dir.lookup path).isSome
  send r q := match r with
    | .socket path =>
      if dir.lookup path == some .socket then .ok <$> ScriptedHost.exchange q
      else pure (.error .refused)
    | _ => pure (.error .refused)
  sleep d := ScriptedHost.advance d.nanos
  within := ScriptedHost.within
  freshUuid := ScriptedHost.backend.freshUuid

end ContainerCpi
