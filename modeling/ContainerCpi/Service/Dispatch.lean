import ContainerCpi.Service.Request
import ContainerCpi.Cloud.Create
import ContainerCpi.Cloud.Disks

/-!
# Answering the director's calls

Each method reads its positional arguments, then runs its operation.  An argument is
decoded from its JSON value, a missing one read as `null`; an optional argument that is
missing, `null` or the empty string is absent, and optional arguments with defaults take
them then.  Arguments are read in the order the method names them, so the first bad one is
reported.

Since API version 2, `create_vm` answers the VM id with the networks as given, and
`attach_disk` answers the disk's hint.  Metadata, reboots and snapshots are accepted and
ignored; a method not listed is not implemented.

A request is answered by the library's description (`info`) without an engine; every
other method first checks the engine endpoint the request's context names.
-/

namespace ContainerCpi

/-- The positional arguments of a call. -/
structure Args where
  method : String
  values : List Json

namespace Args

variable {α : Type}

/-- Argument `i`, which must decode. -/
def get (a : Args) (i : Nat) (d : Decoder α) : Except DispatchError α :=
  (Decoder.run d (a.values.getD i .null)).mapError (.argument a.method i)

/-- Argument `i`, absent when missing, `null` or empty text. -/
def getOpt (a : Args) (i : Nat) (d : Decoder α) : Except DispatchError (Option α) :=
  match a.values[i]? with
  | none => .ok none
  | some .null => .ok none
  | some (.string "") => .ok none
  | some _ => (a.get i d).map some

/-- Argument `i`, or `default` when absent. -/
def getOr (a : Args) (i : Nat) (d : Decoder α) (default : α) : Except DispatchError α :=
  (a.getOpt i d).map (·.getD default)

end Args

namespace Dispatch

/-- A VM id argument. -/
def vmId : Decoder VmId := fun d => (Decoder.string d).map VmId.mk

/-- A disk id argument. -/
def diskId : Decoder DiskId := fun d => (Decoder.string d).map DiskId.mk

/-- An agent id argument. -/
def agentId : Decoder AgentId := fun d => (Decoder.string d).map AgentId.mk

/-- A stemcell id argument. -/
def stemcellId : Decoder StemcellId := fun d => (Decoder.string d).map StemcellId.mk

variable {m : Type → Type} [Monad m] (b : Backend m)

/-- A step of a call: decoding an argument. -/
def arg {α : Type} (r : Except DispatchError α) : ExceptT DispatchError m α :=
  match r with
  | .ok a => pure a
  | .error e => throw e

/-- A step of a call: running an operation, whose failure names the method. -/
def op {α : Type} (method : String) (work : CloudM m α) : ExceptT DispatchError m α :=
  ExceptT.mk ((fun r => r.mapError (DispatchError.cpi method)) <$> work.run)

/-- Answer one call of the director. -/
def dispatch (config : CpiConfig) (request : Request) : ExceptT DispatchError m Json := do
  let method := request.method
  let a : Args := ⟨method, request.arguments⟩
  let v2 := request.apiVersion ≥ 2
  match method with
  | "info" => pure CpiInfo.current.toJson
  | "create_vm" =>
    let agent ← arg (a.get 0 agentId)
    let stemcell ← arg (a.get 1 stemcellId)
    let props ← arg (a.getOr 2 Decoder.json .null)
    let networks ← arg (a.getOr 3 Networks.decoder [])
    let disks ← arg (a.getOr 4 (Decoder.list diskId) [])
    let env ← arg (a.getOr 5 Decoder.objectMap [])
    let vm ← op method (VmCreation.create b config agent stemcell props networks disks env)
    pure (if v2 then .array [.string vm.value, Networks.toJson networks] else .string vm.value)
  | "delete_vm" =>
    let vm ← arg (a.get 0 vmId)
    op method (Vm.delete b vm)
    pure .null
  | "has_vm" =>
    let vm ← arg (a.get 0 vmId)
    pure (.bool (← op method (Vm.exists? b vm)))
  | "reboot_vm" =>
    let _ ← arg (a.get 0 vmId)
    pure .null
  | "set_vm_metadata" =>
    let _ ← arg (a.getOr 1 Decoder.json .null)
    let _ ← arg (a.get 0 vmId)
    pure .null
  | "calculate_vm_cloud_properties" =>
    let _ ← arg (a.getOr 0 Decoder.json .null)
    pure (.object [])
  | "create_disk" =>
    let _ ← arg (a.get 0 (Decoder.nat Decoder.IntKind.u64))
    let _ ← arg (a.getOr 1 Decoder.json .null)
    let vm ← arg (a.getOpt 2 vmId)
    let disk ← op method (Disks.create b vm)
    pure (.string disk.value)
  | "delete_disk" =>
    let disk ← arg (a.get 0 diskId)
    op method (Disks.delete b disk)
    pure .null
  | "has_disk" =>
    let disk ← arg (a.get 0 diskId)
    pure (.bool (← op method (Disks.exists? b disk)))
  | "attach_disk" =>
    let vm ← arg (a.get 0 vmId)
    let disk ← arg (a.get 1 diskId)
    let hint ← op method (Vm.attachDisk b vm disk)
    pure (if v2 then .string hint.path else .null)
  | "detach_disk" =>
    let vm ← arg (a.get 0 vmId)
    let disk ← arg (a.get 1 diskId)
    op method (Vm.detachDisk b vm disk)
    pure .null
  | "set_disk_metadata" =>
    let _ ← arg (a.getOr 1 Decoder.json .null)
    let _ ← arg (a.get 0 diskId)
    pure .null
  | "get_disks" =>
    let _ ← arg (a.get 0 vmId)
    pure (.array [])
  | "snapshot_disk" =>
    let _ ← arg (a.getOr 1 Decoder.json .null)
    let _ ← arg (a.get 0 diskId)
    pure (.string "")
  | "delete_snapshot" =>
    let _ ← arg (a.get 0 Decoder.string)
    pure .null
  | "delete_stemcell" =>
    let stemcell ← arg (a.get 0 stemcellId)
    match ← ExceptT.lift (b.call (.removeImage stemcell.value)) with
    | .ok () => pure .null
    | .error e =>
      if e.isNotFound then pure .null else throw (.cpi method (.engine .removeImage e))
  | other => throw (.notImplemented other)

end Dispatch

namespace Dispatch

variable {m : Type → Type} [Monad m]

/-- The response to a call, or to a request that did not decode, with the engine found by
`reach` for the call's endpoint and spoken to through `engineOf`: when it cannot be
reached, the call fails as its method. -/
def respondVia {ε : Type} (reach : DockerOpts → m (CpiResult ε)) (engineOf : ε → Backend m)
    (config : ServiceConfig) (request : Except String Request) : m Response := do
  match request with
  | .error reason => pure (.failed (DispatchError.request reason).toResponse)
  | .ok r =>
    if r.method == "info" then pure (.ok CpiInfo.current.toJson)
    else
      match config.dockerOpts r.dockerOverride with
      | .error e => pure (.failed (DispatchError.cpi r.method e).toResponse)
      | .ok opts =>
        match ← reach opts with
        | .error e => pure (.failed (DispatchError.cpi r.method e).toResponse)
        | .ok endpoint =>
          match ← (dispatch (engineOf endpoint) config.cpi r).run with
          | .ok result => pure (.ok result)
          | .error e => pure (.failed e.toResponse)

/-- The response to a call, or to a request that did not decode, with the engine of `b`
whatever endpoint the call names. -/
def respond (b : Backend m) (config : ServiceConfig) (request : Except String Request) :
    m Response :=
  respondVia (fun _ => pure (.ok ())) (fun () => b) config request

end Dispatch

end ContainerCpi
