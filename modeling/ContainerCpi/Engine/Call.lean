import ContainerCpi.Engine.Spec
import ContainerCpi.Engine.Error
import ContainerCpi.Time.Duration

/-!
# Engine calls

Everything the cloud operations ask of a container engine is one `Call`: a container,
network, volume, image, file or exec operation with its arguments.  Each call kind has its
own reply type (`Call.Reply`), so an engine is a single function from calls to replies or
`EngineError`s.

Each call also has an operation kind (`Op`, for counting calls and injecting failures) and
a *target*: the name the call is about (the container for most calls, the network created
or joined, the path copied from, the directory copied into, the exec instance), or the
empty string for calls about the engine as a whole.

A `Backend` adds what the operations need besides the engine: a clock to sleep on, a way to
bound work by a time limit, and fresh random identities.
-/

namespace ContainerCpi

/-- One request to the engine. -/
inductive Call where
  | ping
  | hostResources
  | inspect (name : String)
  /-- Create a container, named or (for probes) named by the engine. -/
  | create (name : Option String) (spec : ContainerSpec)
  | start (name : String)
  | kill (name signal : String)
  | stop (name : String) (grace : Duration)
  | remove (name : String) (force : Bool)
  /-- Wait for a container to exit. -/
  | wait (name : String)
  | logs (name : String)
  | createNetwork (request : NetworkRequest)
  | connectNetwork (network container : String) (endpoint : EndpointSettings)
  | createVolume (name driver : String)
  | inspectVolume (name : String)
  | listVolumes
  | removeVolume (name : String) (force : Bool)
  | removeImage (name : String)
  /-- An archive holding the file or directory at `path`. -/
  | copyFrom (name path : String)
  /-- Unpack an archive into directory `dir`. -/
  | copyTo (name dir : String) (archive : List UInt8)
  | createExec (name : String) (cmd : List String)
  | startExec (id : String)
  | inspectExec (id : String)
  deriving Inhabited

namespace Call

/-- What each call answers. -/
@[reducible] def Reply : Call → Type
  | .ping => Unit
  | .hostResources => HostResources
  | .inspect _ => ContainerSpec
  | .create _ _ => String
  | .start _ => Unit
  | .kill _ _ => Unit
  | .stop _ _ => Unit
  | .remove _ _ => Unit
  | .wait _ => Int
  | .logs _ => String
  | .createNetwork _ => Unit
  | .connectNetwork _ _ _ => Unit
  | .createVolume _ _ => Unit
  | .inspectVolume _ => Unit
  | .listVolumes => List String
  | .removeVolume _ _ => Unit
  | .removeImage _ => Unit
  | .copyFrom _ _ => List UInt8
  | .copyTo _ _ _ => Unit
  | .createExec _ _ => String
  | .startExec _ => Unit
  | .inspectExec _ => ExecState

end Call

/-- Kinds of engine calls. -/
inductive Op where
  | ping | hostResources | inspect | create | start | kill | stop | remove | wait | logs
  | createNetwork | connectNetwork | createVolume | inspectVolume | listVolumes
  | removeVolume | removeImage | copyFrom | copyTo | createExec | startExec | inspectExec
  deriving DecidableEq, Repr, Inhabited

namespace Op

/-- All kinds. -/
def all : List Op :=
  [.ping, .hostResources, .inspect, .create, .start, .kill, .stop, .remove, .wait, .logs,
   .createNetwork, .connectNetwork, .createVolume, .inspectVolume, .listVolumes,
   .removeVolume, .removeImage, .copyFrom, .copyTo, .createExec, .startExec, .inspectExec]

/-- The kind's name. -/
def name : Op → String
  | .ping => "Ping"
  | .hostResources => "HostResources"
  | .inspect => "Inspect"
  | .create => "Create"
  | .start => "Start"
  | .kill => "Kill"
  | .stop => "Stop"
  | .remove => "Remove"
  | .wait => "Wait"
  | .logs => "Logs"
  | .createNetwork => "CreateNetwork"
  | .connectNetwork => "ConnectNetwork"
  | .createVolume => "CreateVolume"
  | .inspectVolume => "InspectVolume"
  | .listVolumes => "ListVolumes"
  | .removeVolume => "RemoveVolume"
  | .removeImage => "RemoveImage"
  | .copyFrom => "CopyFrom"
  | .copyTo => "CopyTo"
  | .createExec => "CreateExec"
  | .startExec => "StartExec"
  | .inspectExec => "InspectExec"

/-- The kind with a name. -/
def ofName? (s : String) : Option Op := all.find? (·.name == s)

end Op

namespace Call

/-- The call's kind. -/
def op : Call → Op
  | .ping => .ping
  | .hostResources => .hostResources
  | .inspect _ => .inspect
  | .create _ _ => .create
  | .start _ => .start
  | .kill _ _ => .kill
  | .stop _ _ => .stop
  | .remove _ _ => .remove
  | .wait _ => .wait
  | .logs _ => .logs
  | .createNetwork _ => .createNetwork
  | .connectNetwork _ _ _ => .connectNetwork
  | .createVolume _ _ => .createVolume
  | .inspectVolume _ => .inspectVolume
  | .listVolumes => .listVolumes
  | .removeVolume _ _ => .removeVolume
  | .removeImage _ => .removeImage
  | .copyFrom _ _ => .copyFrom
  | .copyTo _ _ _ => .copyTo
  | .createExec _ _ => .createExec
  | .startExec _ => .startExec
  | .inspectExec _ => .inspectExec

/-- What the call is about. -/
def target : Call → String
  | .ping | .hostResources | .listVolumes => ""
  | .inspect n | .start n | .kill n _ | .stop n _ | .remove n _ | .wait n | .logs n => n
  | .create n _ => n.getD ""
  | .createNetwork r => r.name
  | .connectNetwork network _ _ => network
  | .createVolume n _ | .inspectVolume n | .removeVolume n _ | .removeImage n => n
  | .copyFrom _ path => path
  | .copyTo _ dir _ => dir
  | .createExec n _ => n
  | .startExec id | .inspectExec id => id

end Call

/-- An engine and the clock and randomness the cloud operations run with, in monad `m`. -/
structure Backend (m : Type → Type) where
  call : (c : Call) → m (Except EngineError c.Reply)
  sleep : Duration → m Unit
  /-- Run work with a time limit: none when the limit passes first. -/
  within : {α : Type} → Duration → m α → m (Option α)
  /-- A fresh random version-4 UUID in lower-case hex. -/
  freshUuid : m String

/-- The lower-case hexadecimal digits of `n`, zero-padded to `width`. -/
def hexPadded (width n : Nat) : String :=
  let digits := Nat.toDigits 16 n
  String.ofList (List.replicate (width - digits.length) '0' ++ digits)

/-- The `n`-th identity of a deterministic source: a version-4 UUID whose last group counts. -/
def countedUuid (n : Nat) : String := "00000000-0000-4000-8000-" ++ hexPadded 12 n

end ContainerCpi
