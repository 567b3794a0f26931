import ContainerCpi.Engine.Call
import ContainerCpi.Archive.Tar
import ContainerCpi.Data.Sorted
import ContainerCpi.Engine.Hosts

/-!
# An engine in memory

`MemoryEngine` behaves like a single engine host closely enough to drive every cloud
operation, and records what was asked of it:

* containers are kept by name with an id `mock-N` from one counter (shared with containers
  placed directly), their specification, whether they run, and their files, which vanish
  with the container;
* creating a container creates the named volumes its binds refer to, unless a volume of
  that name exists already, also under a node prefix (`node/name`);
* a volume is in use while a container binds it, and cannot be removed then;
* creating a network fails for the predefined names, for a taken name, and for a subnet
  that overlaps an existing network's, naming the first such network;
* every call is counted and recorded with its target, and can be made to fail: failures
  queued for a call kind are used first, one per call;
* execs get ids `exec-N` in creation order and exit with queued codes (0 when none).

A probe container's logs answer what its command asks: the image's `/etc/os-release` (or
`OS_RELEASE_NOT_FOUND`) and whether `/usr/sbin/runsvdir-start` exists.
-/

namespace ContainerCpi

/-- What a probe container sees inside an image. -/
structure ImageContents where
  /-- The contents of `/etc/os-release`, if the image has one. -/
  osRelease : Option String
  hasRunsvdir : Bool
  deriving DecidableEq, Repr, Inhabited

/-- An image with no release file and with the service supervisor. -/
def ImageContents.default : ImageContents := ⟨none, true⟩

/-- A container as the engine keeps it. -/
structure StoredContainer where
  id : String
  spec : ContainerSpec
  running : Bool
  /-- Files by path. -/
  files : List (String × List UInt8)
  deriving Inhabited

/-- A command run in a container. -/
structure ExecRecord where
  container : String
  cmd : List String
  exitCode : Int
  deriving DecidableEq, Repr

/-- The state of an engine in memory. -/
structure MemoryEngine where
  resources : HostResources
  /-- Containers by name. -/
  containers : List (String × StoredContainer)
  /-- Networks by name, with their subnets. -/
  networks : List (String × Option Net.IpNet)
  volumes : List String
  images : List (String × ImageContents)
  /-- Execs in creation order; an exec's id is `exec-` and its index. -/
  execs : List ExecRecord
  /-- Exit codes for the next execs. -/
  exitCodes : List Int
  /-- Queued failures per call kind. -/
  failures : List (Op × List EngineError)
  /-- Calls per kind. -/
  calls : List (Op × Nat)
  /-- Every call in order, with its target. -/
  history : List (Op × String)
  /-- The last container number given out. -/
  lastId : Nat
  deriving Inhabited

namespace MemoryEngine

/-- An engine with no objects on a host of the given capacity. -/
def empty (resources : HostResources) : MemoryEngine :=
  ⟨resources, [], [], [], [], [], [], [], [], [], 0⟩

/-! ## Bookkeeping -/

/-- How many calls of a kind were made. -/
def callCount (s : MemoryEngine) (op : Op) : Nat :=
  ((s.calls.find? (·.1 == op)).map (·.2)).getD 0

/-- The failures queued for a kind. -/
def queued (s : MemoryEngine) (op : Op) : List EngineError :=
  ((s.failures.find? (·.1 == op)).map (·.2)).getD []

/-- Replace the failures queued for a kind. -/
def setQueued (s : MemoryEngine) (op : Op) (q : List EngineError) : MemoryEngine :=
  { s with failures := (op, q) :: s.failures.filter (·.1 != op) }

/-- Make the next `times` calls of a kind fail with `e`, after those queued already. -/
def fail (s : MemoryEngine) (op : Op) (e : EngineError) (times : Nat) : MemoryEngine :=
  s.setQueued op (s.queued op ++ List.replicate times e)

/-- Count and record a call, and take the failure queued for its kind, if any. -/
def enter (s : MemoryEngine) (op : Op) (target : String) : MemoryEngine × Option EngineError :=
  let s := { s with
    calls := (op, s.callCount op + 1) :: s.calls.filter (·.1 != op),
    history := s.history ++ [(op, target)] }
  match s.queued op with
  | e :: rest => (s.setQueued op rest, some e)
  | [] => (s, none)

/-- The container with a name. -/
def container (s : MemoryEngine) (name : String) : Except EngineError StoredContainer :=
  match SortedMap.get? s.containers name with
  | some c => .ok c
  | none => .error (.notFound s!"No such container: {name}")

/-- Change the container with a name. -/
def updateContainer (s : MemoryEngine) (name : String) (f : StoredContainer → StoredContainer) :
    MemoryEngine :=
  { s with containers := SortedMap.modify name f s.containers }

/-- The stored name of a volume, which may be written without its node prefix. -/
def resolveVolume (s : MemoryEngine) (name : String) : Option String :=
  s.volumes.find? fun stored =>
    stored == name || ((Text.splitOnce stored '/').map (·.2 == name)).getD false

/-- The source of a bind: the text before its first `:`. -/
def bindSource (bind : String) : String := ((Text.splitOnce bind ':').map (·.1)).getD bind

/-- Whether a container binds a stored volume (by its name without node prefix). -/
def volumeInUse (s : MemoryEngine) (stored : String) : Bool :=
  let bare := ((Text.splitOnce stored '/').map (·.2)).getD stored
  s.containers.any fun (_, c) => c.spec.binds.any fun b => bindSource b == bare

/-- The commands run in containers of a name, including earlier containers of that name. -/
def execCommands (s : MemoryEngine) (name : String) : List (List String) :=
  (s.execs.filter (·.container == name)).map (·.cmd)

/-- A file of a container. -/
def file? (s : MemoryEngine) (name path : String) : Option (List UInt8) :=
  (SortedMap.get? s.containers name).bind fun c => SortedMap.get? c.files path

/-! ## Placing objects directly -/

/-- Add an image. -/
def addImage (s : MemoryEngine) (name : String) (contents : ImageContents) : MemoryEngine :=
  { s with images := SortedMap.insert name contents s.images }

/-- Add a volume. -/
def addVolume (s : MemoryEngine) (name : String) : MemoryEngine :=
  { s with volumes := SortedSet.insert name s.volumes }

/-- Add a network. -/
def addNetwork (s : MemoryEngine) (name : String) (subnet : Option Net.IpNet) : MemoryEngine :=
  { s with networks := SortedMap.insert name subnet s.networks }

/-- Place a running container, bypassing creation. -/
def addContainer (s : MemoryEngine) (name : String) (spec : ContainerSpec) : MemoryEngine :=
  let n := s.lastId + 1
  let id := s!"mock-{n}"
  { s with lastId := n, containers := SortedMap.insert name ⟨id, spec, true, []⟩ s.containers }

/-- Put a file into a container, if it exists. -/
def putFile (s : MemoryEngine) (name path : String) (contents : List UInt8) : MemoryEngine :=
  s.updateContainer name fun c => { c with files := SortedMap.insert path contents c.files }

/-- Exit with `code` from the next exec without a code. -/
def pushExitCode (s : MemoryEngine) (code : Int) : MemoryEngine :=
  { s with exitCodes := s.exitCodes ++ [code] }

/-! ## Calls -/

/-- What a probe running `cmd` prints for an image. -/
def probeOutput (image : ImageContents) (cmd : String) : String :=
  let release :=
    if Text.contains cmd "/etc/os-release" then
      match image.osRelease with
      | some text => if text.endsWith "\n" then text else text ++ "\n"
      | none => "OS_RELEASE_NOT_FOUND\n"
    else ""
  let supervisor :=
    if Text.contains cmd "runsvdir-start" then
      if image.hasRunsvdir then "RUNSVDIR_EXISTS\n" else "RUNSVDIR_MISSING\n"
    else ""
  release ++ supervisor

/-- The archive holding one file, named by the last part of its path. -/
def singleFileArchive (path : String) (contents : List UInt8) : Except EngineError (List UInt8) :=
  let name := ((Text.splitLast path '/').map (·.2)).getD path
  (Tar.archive 0o640 [(Utf8.encode name, contents)]).mapError fun e => .malformed e.message

/-- The files of an archive unpacked into `dir`. -/
def unpack (dir : String) (archive : List UInt8) : Except EngineError (List (String × List UInt8)) :=
  let base := Text.trimEndChar dir '/'
  match Tar.read archive with
  | (members, none) => .ok (members.map fun m => (base ++ "/" ++ Utf8.lossy m.path, m.contents))
  | (_, some e) => .error (.malformed ("archive: " ++ e.message))

/-- Create the volume a bind names, unless its source is a path, is empty or names a volume
already. -/
def addBindVolume (s : MemoryEngine) (bind : String) : MemoryEngine :=
  let source := bindSource bind
  if !source.startsWith "/" && !source.isEmpty && (s.resolveVolume source).isNone then
    s.addVolume source
  else s

/-- Create a container: the number is taken first, then the name and the networks are
checked, then the volumes its binds name are created. -/
def create (s : MemoryEngine) (name : Option String) (spec : ContainerSpec) :
    Except EngineError String × MemoryEngine :=
  let n := s.lastId + 1
  let s := { s with lastId := n }
  let id := s!"mock-{n}"
  let name := name.getD id
  if SortedMap.contains s.containers name then
    (.error (.conflict s!"Conflict. The container name \"/{name}\" is already in use"), s)
  else
    match spec.endpoints.find? (fun (net, _) => !SortedMap.contains s.networks net) with
    | some (net, _) => (.error (.notFound s!"network {net} not found"), s)
    | none =>
      let s := spec.binds.foldl addBindVolume s
      (.ok id, { s with containers := SortedMap.insert name ⟨id, spec, false, []⟩ s.containers })

/-- Create a network: predefined names, taken names and overlapping subnets are refused. -/
def createNetwork (s : MemoryEngine) (r : NetworkRequest) : Except EngineError Unit × MemoryEngine :=
  let n := r.name
  if n == "bridge" || n == "host" || n == "none" then
    (.error (.api 403 s!"operation is not permitted on predefined {n} network"), s)
  else if SortedMap.contains s.networks n then
    (.error (.conflict s!"network with name {n} already exists"), s)
  else
    let overlapping := r.subnet.bind fun subnet =>
      s.networks.find? fun (_, existing) =>
        match existing with
        | some e => e.contains subnet.network || subnet.contains e.network
        | none => false
    match overlapping, r.subnet with
    | some (e, _), some subnet =>
      let family := if subnet.addr.isV6 then "IPv6" else "IPv4"
      (.error (.api 403
        s!"cannot create network {n} (br-{n}): conflicts with network {e} (br-{e}): networks have overlapping {family}"),
        s)
    | _, _ => (.ok (), s.addNetwork n r.subnet)

/-- The reply to a call that was let through. -/
def answer (s : MemoryEngine) : (c : Call) → Except EngineError c.Reply × MemoryEngine
  | .ping => (.ok (), s)
  | .hostResources => (.ok s.resources, s)
  | .inspect name => ((s.container name).map (·.spec), s)
  | .create name spec => s.create name spec
  | .start name =>
    match s.container name with
    | .ok _ => (.ok (), s.updateContainer name fun c => { c with running := true })
    | .error e => (.error e, s)
  | .kill name _ =>
    match s.container name with
    | .ok c =>
      if !c.running then
        let id := c.id
        (.error (.conflict s!"Cannot kill container: {name}: Container {id} is not running"), s)
      else (.ok (), s.updateContainer name fun c => { c with running := false })
    | .error e => (.error e, s)
  | .stop name _ =>
    match s.container name with
    | .ok _ => (.ok (), s.updateContainer name fun c => { c with running := false })
    | .error e => (.error e, s)
  | .remove name force =>
    match s.container name with
    | .ok c =>
      if c.running && !force then
        let id := c.id
        (.error (.conflict s!"You cannot remove a running container {id}"), s)
      else (.ok (), { s with containers := SortedMap.erase name s.containers })
    | .error e => (.error e, s)
  | .wait name =>
    match s.container name with
    | .ok _ => (.ok 0, s.updateContainer name fun c => { c with running := false })
    | .error e => (.error e, s)
  | .logs name =>
    match s.container name with
    | .ok c =>
      let cmd := " ".intercalate (c.spec.config.cmd?.getD [])
      let image := (c.spec.image?.bind (SortedMap.get? s.images)).getD ImageContents.default
      (.ok (probeOutput image cmd), s)
    | .error e => (.error e, s)
  | .createNetwork r => s.createNetwork r
  | .connectNetwork network name endpoint =>
    if !SortedMap.contains s.networks network then
      (.error (.notFound s!"network {network} not found"), s)
    else
      match s.container name with
      | .ok _ =>
        (.ok (), s.updateContainer name fun c =>
          { c with spec := { c.spec with endpoints := SortedMap.insert network endpoint c.spec.endpoints } })
      | .error e => (.error e, s)
  | .createVolume name _ => (.ok (), s.addVolume name)
  | .inspectVolume name =>
    if (s.resolveVolume name).isSome then (.ok (), s)
    else (.error (.notFound s!"get {name}: no such volume"), s)
  | .listVolumes => (.ok s.volumes, s)
  | .removeVolume name _ =>
    match s.resolveVolume name with
    | none => (.error (.notFound s!"get {name}: no such volume"), s)
    | some stored =>
      if s.volumeInUse stored then (.error (.conflict s!"remove {name}: volume is in use"), s)
      else (.ok (), { s with volumes := SortedSet.erase stored s.volumes })
  | .removeImage name =>
    if SortedMap.contains s.images name then (.ok (), { s with images := SortedMap.erase name s.images })
    else (.error (.notFound s!"No such image: {name}"), s)
  | .copyFrom name path =>
    match s.container name with
    | .ok c =>
      match SortedMap.get? c.files path with
      | some contents => (singleFileArchive path contents, s)
      | none => (.error (.notFound s!"Could not find the file {path} in container {name}"), s)
    | .error e => (.error e, s)
  | .copyTo name dir archive =>
    match unpack dir archive with
    | .error e => (.error e, s)
    | .ok files =>
      match s.container name with
      | .ok _ =>
        (.ok (), s.updateContainer name fun c =>
          { c with files := files.foldl (fun fs (p, b) => SortedMap.insert p b fs) c.files })
      | .error e => (.error e, s)
  | .createExec name cmd =>
    match s.container name with
    | .ok c =>
      if !c.running then
        let id := c.id
        (.error (.conflict s!"Container {id} is not running"), s)
      else
        let (code, rest) := match s.exitCodes with
          | code :: rest => (code, rest)
          | [] => (0, [])
        let index := s.execs.length
        (.ok s!"exec-{index}", { s with execs := s.execs ++ [⟨name, cmd, code⟩], exitCodes := rest })
    | .error e => (.error e, s)
  | .startExec _ => (.ok (), s)
  | .inspectExec id =>
    let found := ((Text.stripPrefix? id "exec-").bind Hosts.parseWord?).bind fun i => s.execs[i]?
    match found with
    | some e => (.ok ⟨false, some e.exitCode⟩, s)
    | none => (.error (.notFound s!"No such exec instance: {id}"), s)

/-- Serve a call: count and record it, fail it if a failure is queued, else answer it. -/
def serve (s : MemoryEngine) (c : Call) : Except EngineError c.Reply × MemoryEngine :=
  match s.enter c.op c.target with
  | (s, some e) => (.error e, s)
  | (s, none) => s.answer c

end MemoryEngine

/-- An engine in memory with a deterministic source of identities and a clock that never
needs to advance: nothing in memory waits, so no time limit passes. -/
structure MemoryHost where
  engine : MemoryEngine
  /-- Identities drawn so far. -/
  drawn : Nat
  deriving Inhabited

namespace MemoryHost

/-- The backend of cloud operations on the in-memory engine. -/
def backend : Backend (StateM MemoryHost) where
  call c := modifyGet fun h =>
    let (r, e) := h.engine.serve c
    (r, { h with engine := e })
  sleep _ := pure ()
  within _ work := some <$> work
  freshUuid := modifyGet fun h => (countedUuid (h.drawn + 1), { h with drawn := h.drawn + 1 })

end MemoryHost

end ContainerCpi
