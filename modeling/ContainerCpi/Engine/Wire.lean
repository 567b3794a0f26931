import ContainerCpi.Engine.Call
import ContainerCpi.Http.Message
import ContainerCpi.Http.Target

/-!
# Engine calls over HTTP

How each engine call is spoken in the engine's HTTP API, and how its answer is read.

* `Call.request` is the request that makes a call: its method, path, decoded query
  parameters and body.
* `Call.interpret` reads the response.  A status other than success is a failure with the
  message the engine put in its `{"message": …}` body; a body that is not such a document
  is the message as it stands (an empty body an empty message), unless it ends before its
  document does, which is a failure with the reader's own message.  A successful answer is
  read by the reply document of the call; a text that ends before its document does is a
  failure with the reader's own message, and any other text that is not that document is a
  failure `Failed to deserialize JSON: …`.  A stream of documents is read a line at a time
  (`Wire.firstOfStream`).
* These are failures of the HTTP client (`ClientError`); as engine failures
  (`EngineError.ofClient`) a `404` is `notFound`, a `409` is `conflict`, any other status
  is `api`, and everything else is a transport failure.
* Each call has a time limit (`Call.timeLimit`), after which it fails as `timeout` under
  the name of its operation; `Backend.overHttp` puts the limits in place.

Reply documents are records whose fields the engine may leave out, apart from a few it
always sends (the identity of what it created, the names and drivers of volumes); those are
required when read, in the order the API declares them.
-/

namespace ContainerCpi

/-- A failure of the HTTP client. -/
inductive ClientError where
  /-- The engine answered with an unsuccessful status and a message. -/
  | status (code : Nat) (message : String)
  /-- A reply document of the wrong form. -/
  | mismatch (message : String)
  /-- A reply that is no document at all, or a stream cut short. -/
  | unreadable (message : String)
  /-- The endpoint could not be reached. -/
  | unreachable (message : String)
  deriving DecidableEq, Repr, Inhabited

/-- The wording of each client failure. -/
def ClientError.message : ClientError → String
  | .status code m => s!"Docker responded with status code {code}: " ++ m
  | .mismatch m => "Failed to deserialize JSON: " ++ m
  | .unreadable m => m
  | .unreachable m => m

/-- A client failure as an engine failure: statuses `404` and `409` are the missing object
and the conflict, other statuses the engine's own failures, and the rest transport
failures. -/
def EngineError.ofClient : ClientError → EngineError
  | .status 404 m => .notFound m
  | .status 409 m => .conflict m
  | .status code m => .api code m
  | e => .transport e.message

/-! ## Request bodies -/

namespace ContainerSpec

/-- The body that creates a container: its configuration, its host configuration when it
has one, and the networks it joins when there are any. -/
def createBody (s : ContainerSpec) : Json :=
  let host := s.hostConfig.toList.map fun h => ("HostConfig", h.toJson)
  let joins := s.endpoints.map fun (n, e) => (n, e.toJson)
  let networks := if joins.isEmpty then []
    else [("NetworkingConfig", Json.object [("EndpointsConfig", .object joins)])]
  .object (s.config.fields ++ host ++ networks)

/-- The node named by an inspected container's name `/<node>/<name>` (leading slashes
dropped), else by the first node constraint in its environment; an empty node is none. -/
def nodeOf (name : Option String) (env : List String) : Option String :=
  let nonEmpty (s : String) : Option String := if s.isEmpty then none else some s
  let fromName := name.bind fun n =>
    (Text.splitOnce (Text.trimStartChar n '/') '/').bind fun (node, _) => nonEmpty node
  let fromEnv := (env.findSome? (Text.stripPrefix? · nodeConstraintPrefix)).bind nonEmpty
  fromName.or fromEnv

/-- A specification from an inspected container in canonical form: its configuration, host
configuration and networks as reported, its node, and the platform recorded in its label,
else the one it reports, else the default. -/
def ofInspection (j : Json) : ContainerSpec :=
  let config : ContainerConfig := ⟨((j.field? "Config").bind Json.fields?).getD []⟩
  let networks := (((j.field? "NetworkSettings").bind (·.field? "Networks")).bind Json.fields?).getD []
  let base : ContainerSpec :=
    { config
      hostConfig := (j.field? "HostConfig").map HostConfig.ofJson
      endpoints := networks.map fun (n, e) => (n, ⟨e.fields?.getD []⟩)
      platform := .default
      node := nodeOf ((j.field? "Name").bind Json.str?) (config.env?.getD []) }
  let reported := ((j.field? "Platform").bind Json.str?).bind Platform.parse?
  { base with platform := (base.recordedPlatform?.or reported).getD .default }

end ContainerSpec

/-- The body that creates a network: a fixed subnet (with its gateway) is managed by the
engine's default address manager. -/
def NetworkRequest.body (r : NetworkRequest) : Json :=
  let pool (net : Net.IpNet) : Json :=
    .object (("Subnet", .string net.render) :: r.gateway.toList.map (("Gateway", .string ·)))
  let ipam := r.subnet.toList.map fun net =>
    ("IPAM", Json.object [("Driver", .string "default"), ("Config", .array [pool net])])
  .object ([("Name", .string r.name), ("Driver", .string r.driver),
    ("EnableIPv6", .bool r.enableIpv6), ("Internal", .bool false), ("Attachable", .bool false)] ++ ipam)

/-! ## Reply documents -/

namespace Wire

open Decoder

/-- The host's capacity; unreported figures are zero. -/
def systemInfo : Decoder HostResources := fun d =>
  (Models.systemInfo.decode d).map fun j =>
    let figure (key : String) : Int := ((j.field? key).bind Json.int?).getD 0
    ⟨figure "MemTotal", figure "NCPU"⟩

/-- An inspected container. -/
def inspection : Decoder ContainerSpec :=
  fun d => (Models.inspectResponse.decode d).map ContainerSpec.ofInspection

/-- The identity of a created container. -/
def created : Decoder String :=
  let warnings := option (list string)
  record "ContainerCreateResponse" [field "Id" string, field "Warnings" warnings] fun f => do
    let id ← f.req "Id" string
    let _ ← f.req "Warnings" warnings
    return id

/-- The identity of a created exec instance. -/
def execCreated : Decoder String :=
  record "CreateExecResults" [field "Id" string] fun f => f.req "Id" string

/-- The progress of an exec instance; an instance not reported running has finished. -/
def execState : Decoder ExecState :=
  let i64 := int IntKind.i64
  let process := Shape.recordOf "ProcessConfig"
    [("privileged", .bool), ("user", .string), ("tty", .bool), ("entrypoint", .string),
     ("arguments", Shape.strings)]
  record "ExecInspectResponse"
    [field "CanRemove" (option bool), field "DetachKeys" (option string),
     field "ID" (option string), field "Running" (option bool), field "ExitCode" (option i64),
     field "ProcessConfig" (option process.decode), field "OpenStdin" (option bool),
     field "OpenStderr" (option bool), field "OpenStdout" (option bool),
     field "ContainerID" (option string), field "Pid" (option i64)] fun f => do
    let running ← f.option "Running" bool
    let exitCode ← f.option "ExitCode" i64
    return ⟨running.getD false, exitCode⟩

/-- A created network. -/
def networkCreated : Decoder Unit :=
  record "NetworkCreateResponse" [field "Id" string, field "Warning" string] fun f => do
    let _ ← f.req "Id" string
    let _ ← f.req "Warning" string
    return ()

/-- A volume, read for its name. -/
def volume : Decoder String :=
  let strMap := option (map string)
  let scope := textChoice ["local", "global"]
  let usage := record "VolumeUsageData" [field "Size" (int IntKind.i64),
      field "RefCount" (int IntKind.i64)] fun f => do
    let _ ← f.req "Size" (int IntKind.i64)
    let _ ← f.req "RefCount" (int IntKind.i64)
    return ()
  record "Volume"
    [field "Name" string, field "Driver" string, field "Mountpoint" string,
     field "CreatedAt" (option string), field "Status" (option (map (map json))),
     field "Labels" strMap, field "Scope" scope,
     field "ClusterVolume" (option Models.clusterVolume.decode),
     field "Options" strMap, field "UsageData" (option usage)] fun f => do
    let name ← f.req "Name" string
    let _ ← f.req "Driver" string
    let _ ← f.req "Mountpoint" string
    let _ ← f.req "Labels" strMap
    let _ ← f.req "Scope" scope
    let _ ← f.req "Options" strMap
    return name

/-- The names of the listed volumes. -/
def volumeList : Decoder (List String) :=
  record "VolumeListResponse" [field "Volumes" (option (list volume)),
      field "Warnings" (option (list string))] fun f => do
    let volumes ← f.option "Volumes" (list volume)
    return volumes.getD []

/-- What removing an image untagged and deleted. -/
def imageDeleted : Decoder Unit :=
  list (record "ImageDeleteResponseItem" [field "Untagged" (option string),
    field "Deleted" (option string)] fun _ => .ok ()) |> fun d doc => (d doc).map fun _ => ()

/-- One report of a container's exit: its status code. -/
def waitReport : Decoder Int :=
  let exitError := record "ContainerWaitExitError" [field "Message" (option string)] fun _ => .ok ()
  record "ContainerWaitResponse" [field "StatusCode" (int IntKind.i64),
      field "Error" (option exitError)] fun f => f.req "StatusCode" (int IntKind.i64)

/-- The message of a failure body. -/
def failureMessage : Decoder String :=
  record "DockerServerErrorMessage" [field "message" string] fun f => f.req "message" string

/-- Read a reply document from text.  A text that ends before its document does cannot be
read at all; any other fault, of form or of syntax, is a mismatch. -/
def document {α : Type} (d : Decoder α) (text : String) : Except ClientError α :=
  (readText d text).mapError fun
    | .cutShort m => .unreadable m
    | fault => .mismatch fault.message

/-- One document of a stream, or `null`, which stands for none; a text that ends before
its document does is none as well, as more may follow.  Other syntax faults are told as they
are, faults of form as mismatches. -/
def streamDocument {α : Type} (d : Decoder α) (bytes : List UInt8) :
    Except ClientError (Option α) :=
  match readText (option d) (Utf8.lossy bytes) with
  | .ok a => .ok a
  | .error (.cutShort _) => .ok none
  | .error (.broken m) => .error (.unreadable m)
  | .error (.mismatch m) => .error (.mismatch m)

/-- One step of the reader of a stream of documents written one per line, over what it has
received: a document and what is left after its line, or none and what is kept to wait for
more.  A buffer with a line break decodes its first line; a line that gives no document is
kept, joined to the rest without its line break, as a document may span lines.  A buffer
without a line break is decoded whole. -/
def streamStep {α : Type} (d : Decoder α) (buffer : List UInt8) :
    Except ClientError (Option α × List UInt8) :=
  if buffer.isEmpty then .ok (none, [])
  else
    match buffer.idxOf? 10 with
    | some pos =>
      let line := buffer.take pos
      let rest := buffer.drop (pos + 1)
      (streamDocument d line).map fun
        | some a => (some a, rest)
        | none => (none, line ++ rest)
    | none =>
      (streamDocument d buffer).map fun
        | some a => (some a, [])
        | none => (none, buffer)

/-- The first document of a stream received whole, or none for a stream that ends without
one.  The reader takes one step on what it received, and when that gives no document, one
last step at the end of the stream, after which bytes still kept are a failure. -/
def firstOfStream {α : Type} (d : Decoder α) (body : List UInt8) :
    Except ClientError (Option α) := do
  let (first, kept) ← streamStep d body
  match first with
  | some a => return some a
  | none =>
    let (last, left) ← streamStep d kept
    match last with
    | some a => return some a
    | none => if left.isEmpty then return none else throw (.unreadable "bytes remaining on stream")

/-- Read a 32-bit big-endian length. -/
def lengthOf (bytes : List UInt8) : Nat :=
  bytes.foldl (fun acc b => acc * 256 + b.toNat) 0

/-- The chunks of a container's output stream.  Output is framed: each frame is a header of
eight bytes (the stream, three zero bytes, the payload length as a 32-bit big-endian
number) and the payload.  Output that starts with a byte above 2 is no frame and comes in
lines.  A frame or line cut short by the end of the stream is a failure. -/
def outputChunks : Nat → List UInt8 → Except String (List (List UInt8))
  | 0, _ => .ok []
  | _, [] => .ok []
  | fuel + 1, b :: rest =>
    let stream := b :: rest
    if b.toNat > 2 then
      match stream.idxOf? 10 with
      | some i => (outputChunks fuel (stream.drop (i + 1))).map (stream.take (i + 1) :: ·)
      | none => .error "bytes remaining on stream"
    else if stream.length < 8 then .error "bytes remaining on stream"
    else
      let size := lengthOf ((stream.take 8).drop 4)
      let payload := (stream.drop 8).take size
      if payload.length < size then .error "bytes remaining on stream"
      else (outputChunks fuel (stream.drop (8 + size))).map (payload :: ·)

/-- A container's output as text, each chunk decoded on its own. -/
def outputText (body : List UInt8) : Except String String :=
  (outputChunks body.length body).map fun chunks => String.join (chunks.map Utf8.lossy)

end Wire

namespace Http.Response

/-- The failure a response with an unsuccessful status reports. -/
def failure (r : Response) : ClientError :=
  let text := r.text
  if text.isEmpty then .status r.status ""
  else
    match Decoder.readText Wire.failureMessage text with
    | .ok m => .status r.status m
    | .error (.cutShort m) => .unreadable m
    | .error _ => .status r.status text

end Http.Response

namespace Call

/-- `true` or `false`, as query parameters write them. -/
def flag (b : Bool) : String := if b then "true" else "false"

/-- The request that makes the call, as the client writes it. -/
def written : Call → Http.Request
  | .ping => ⟨.get, "/_ping", [], none⟩
  | .hostResources => ⟨.get, "/info", [], none⟩
  | .inspect n => ⟨.get, "/containers/" ++ n ++ "/json", [], none⟩
  | .create name spec =>
    ⟨.post, "/containers/create", name.toList.map (("name", ·)) ++ [("platform", spec.platform.render)],
      some (.json spec.createBody)⟩
  | .start n => ⟨.post, "/containers/" ++ n ++ "/start", [], none⟩
  | .kill n signal => ⟨.post, "/containers/" ++ n ++ "/kill", [("signal", signal)], none⟩
  | .stop n grace =>
    let secs := grace.nanos / 1000000000
    ⟨.post, "/containers/" ++ n ++ "/stop", [("t", toString secs)], none⟩
  | .remove n force =>
    ⟨.delete, "/containers/" ++ n, [("force", flag force), ("v", "false"), ("link", "false")], none⟩
  | .wait n => ⟨.post, "/containers/" ++ n ++ "/wait", [("condition", "not-running")], none⟩
  | .logs n =>
    ⟨.get, "/containers/" ++ n ++ "/logs",
      [("follow", "false"), ("stdout", "true"), ("stderr", "true"), ("since", "0"), ("until", "0"),
       ("timestamps", "false"), ("tail", "all")], none⟩
  | .createNetwork r => ⟨.post, "/networks/create", [], some (.json r.body)⟩
  | .connectNetwork network container endpoint =>
    ⟨.post, "/networks/" ++ network ++ "/connect", [],
      some (.json (.object [("Container", .string container), ("EndpointConfig", endpoint.toJson)]))⟩
  | .createVolume n driver =>
    ⟨.post, "/volumes/create", [],
      some (.json (.object [("Name", .string n), ("Driver", .string driver)]))⟩
  | .inspectVolume n => ⟨.get, "/volumes/" ++ n, [], none⟩
  | .listVolumes => ⟨.get, "/volumes", [], none⟩
  | .removeVolume n force => ⟨.delete, "/volumes/" ++ n, [("force", flag force)], none⟩
  | .removeImage n => ⟨.delete, "/images/" ++ n, [("force", "true"), ("noprune", "false")], none⟩
  | .copyFrom n path => ⟨.get, "/containers/" ++ n ++ "/archive", [("path", path)], none⟩
  | .copyTo n dir archive =>
    ⟨.put, "/containers/" ++ n ++ "/archive", [("path", dir)], some (.raw archive)⟩
  | .createExec n cmd =>
    ⟨.post, "/containers/" ++ n ++ "/exec", [],
      some (.json (.object [("AttachStdout", .bool false), ("AttachStderr", .bool false),
        ("Cmd", Json.strings cmd)]))⟩
  | .startExec id =>
    ⟨.post, "/exec/" ++ id ++ "/start", [],
      some (.json (.object [("Detach", .bool true), ("Tty", .bool false), ("OutputCapacity", .null)]))⟩
  | .inspectExec id => ⟨.get, "/exec/" ++ id ++ "/json", [], none⟩

/-- The request that makes the call, as it reaches the engine: its path resolved as a URL
parser reads it (`Http.target`). -/
def request (c : Call) : Http.Request :=
  let r := c.written
  let (path, query) := Http.target r.path r.query
  { r with path, query }

/-- Read a successful answer to the call. -/
def readReply : (c : Call) → Http.Response → Except ClientError c.Reply
  | .ping, _ => .ok ()
  | .hostResources, r => Wire.document Wire.systemInfo r.text
  | .inspect _, r => Wire.document Wire.inspection r.text
  | .create _ _, r => Wire.document Wire.created r.text
  | .start _, _ => .ok ()
  | .kill _ _, _ => .ok ()
  | .stop _ _, _ => .ok ()
  | .remove _ _, _ => .ok ()
  | .wait n, r =>
    match Wire.firstOfStream Wire.waitReport r.body with
    | .ok (some code) => .ok code
    | .ok none => .error (.unreadable s!"wait stream for '{n}' closed unexpectedly")
    | .error e => .error e
  | .logs _, r => (Wire.outputText r.body).mapError .unreadable
  | .createNetwork _, r => Wire.document Wire.networkCreated r.text
  | .connectNetwork _ _ _, _ => .ok ()
  | .createVolume _ _, r => (Wire.document Wire.volume r.text).map fun _ => ()
  | .inspectVolume _, r => (Wire.document Wire.volume r.text).map fun _ => ()
  | .listVolumes, r => Wire.document Wire.volumeList r.text
  | .removeVolume _ _, _ => .ok ()
  | .removeImage _, r => Wire.document Wire.imageDeleted r.text
  | .copyFrom _ _, r => .ok r.body
  | .copyTo _ _ _, _ => .ok ()
  | .createExec _ _, r => Wire.document Wire.execCreated r.text
  | .startExec _, _ => .ok ()
  | .inspectExec _, r => Wire.document Wire.execState r.text

/-- Read the engine's answer to the call. -/
def interpret (c : Call) (r : Http.Response) : Except EngineError c.Reply :=
  (if r.isSuccess then c.readReply r else .error r.failure).mapError EngineError.ofClient

/-- The name under which a call that runs out of time is reported. -/
def operation : Call → String
  | .ping => "ping"
  | .hostResources => "info"
  | .inspect _ => "inspect_container"
  | .create _ _ => "create_container"
  | .start _ => "start_container"
  | .kill _ _ => "kill_container"
  | .stop _ _ => "stop_container"
  | .remove _ _ => "remove_container"
  | .wait _ => "wait_container"
  | .logs _ => "container_logs"
  | .createNetwork _ => "create_network"
  | .connectNetwork _ _ _ => "connect_network"
  | .createVolume _ _ => "create_volume"
  | .inspectVolume _ => "inspect_volume"
  | .listVolumes => "list_volumes"
  | .removeVolume _ _ => "remove_volume"
  | .removeImage _ => "remove_image"
  | .copyFrom _ _ => "copy_from_container"
  | .copyTo _ _ _ => "copy_to_container"
  | .createExec _ _ => "create_exec"
  | .startExec _ => "start_exec"
  | .inspectExec _ => "inspect_exec"

/-- How long a call may take: lookups are quick, changes take longer, and waiting for a
container to exit longest. -/
def timeLimit : Call → Duration
  | .create _ _ | .start _ | .stop _ _ | .createNetwork _ | .connectNetwork _ _ _
  | .createVolume _ _ | .removeImage _ | .copyFrom _ _ | .copyTo _ _ _ => .defaultCall
  | .wait _ => .longCall
  | _ => .shortCall

end Call

/-- An engine reached by `exchange`, with the clock, time limits and identities given:
every call is bounded by its own time limit, and a request that cannot be delivered is a
failure of the call. -/
def Backend.overHttp {m : Type → Type} [Monad m]
    (exchange : Http.Request → m (Except ClientError Http.Response))
    (sleep : Duration → m Unit) (within : {α : Type} → Duration → m α → m (Option α))
    (freshUuid : m String) : Backend m where
  call c := do
    match ← within c.timeLimit (exchange c.request) with
    | some (.ok r) => pure (c.interpret r)
    | some (.error e) => pure (.error (EngineError.ofClient e))
    | none => pure (.error (.timeout c.operation c.timeLimit))
  sleep := sleep
  within := within
  freshUuid := freshUuid

end ContainerCpi
