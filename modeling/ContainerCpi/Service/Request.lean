import ContainerCpi.Config.Settings
import ContainerCpi.Config.Logging

/-!
# Requests and responses

The director sends one request per call: a method, positional arguments, an opaque
context, and the API version it speaks (1 when absent).  The context may name another engine
endpoint; when it decodes as an endpoint with a non-empty host it replaces the configured
one for this call, inheriting the configured API version when it names none.

A response carries either a result or an error with the director's error type, a message,
and whether the call may be retried unchanged.
-/

namespace ContainerCpi

/-- One call from the director. -/
structure Request where
  method : String
  arguments : List Json
  context : Json
  apiVersion : Nat
  deriving Inhabited

namespace Request

/-- Decoding: the method is required. -/
def decoder : Decoder Request :=
  let args := Decoder.list Decoder.json
  let version := Decoder.nat Decoder.IntKind.u32
  Decoder.record "Request"
    [Decoder.field "method" Decoder.string, Decoder.field "arguments" args,
     Decoder.field "context" Decoder.json, Decoder.field "api_version" version]
    fun f => do
      let method ← f.req "method" Decoder.string
      let arguments ← f.opt "arguments" args []
      let context ← f.opt "context" Decoder.json .null
      let apiVersion ← f.opt "api_version" version 1
      return ⟨method, arguments, context, apiVersion⟩

/-- The engine endpoint named by the context, if it decodes and names a host. -/
def dockerOverride (r : Request) : Option DockerOpts :=
  match Decoder.run DockerOpts.decoder r.context with
  | .ok o => if o.host.isEmpty then none else some o
  | .error _ => none

end Request

/-- The error part of a response. -/
structure ResponseError where
  /-- The director's error type. -/
  kind : String
  message : String
  okToRetry : Bool
  deriving DecidableEq, Repr

/-- The answer to one call. -/
structure Response where
  result : Json
  error : Option ResponseError
  deriving Inhabited

namespace Response

/-- A successful answer. -/
def ok (result : Json) : Response := ⟨result, none⟩

/-- A failed answer. -/
def failed (e : ResponseError) : Response := ⟨.null, some e⟩

/-- As written, with an empty log. -/
def toJson (r : Response) : Json :=
  .object [("result", r.result),
    ("error", Json.opt (fun (e : ResponseError) => .object [("type", .string e.kind),
      ("message", .string e.message), ("ok_to_retry", .bool e.okToRetry)]) r.error),
    ("log", .string "")]

end Response

/-! Director error types. -/
namespace ErrorType

/-- Any failure without a type of its own. -/
def cloudError : String := "Bosh::Clouds::CloudError"

/-- A method this library does not offer. -/
def notImplemented : String := "Bosh::Clouds::NotImplemented"

/-- The VM does not exist. -/
def vmNotFound : String := "Bosh::Clouds::VMNotFound"

/-- Creating a VM failed. -/
def vmCreationFailed : String := "Bosh::Clouds::VMCreationFailed"

end ErrorType

/-- Why a call failed. -/
inductive DispatchError where
  /-- The request itself did not decode. -/
  | request (reason : String)
  | notImplemented (method : String)
  /-- A positional argument did not decode. -/
  | argument (method : String) (index : Nat) (reason : String)
  /-- The operation failed. -/
  | cpi (method : String) (source : CpiError)
  deriving Inhabited

namespace DispatchError

/-- The wording of each failure. -/
def message : DispatchError → String
  | .request r => "Invalid request: " ++ r
  | .notImplemented m => s!"Method '{m}' is not implemented"
  | .argument m i r => s!"Invalid argument {i} for '{m}': " ++ r
  | .cpi m e => m ++ ": " ++ e.message

/-- The error as the director sees it: a missing VM is its own type, a failed VM creation
too; only retryable operation failures may be retried. -/
def toResponse (e : DispatchError) : ResponseError :=
  let (kind, retry) := match e with
    | .notImplemented _ => (ErrorType.notImplemented, false)
    | .cpi method source =>
      match source with
      | .vmNotFound _ => (ErrorType.vmNotFound, false)
      | _ => if method == "create_vm" then (ErrorType.vmCreationFailed, source.isRetryable)
             else (ErrorType.cloudError, source.isRetryable)
    | _ => (ErrorType.cloudError, false)
  ⟨kind, e.message, retry⟩

end DispatchError

/-- What the `info` call answers. -/
structure CpiInfo where
  stemcellFormats : List String
  apiVersion : Nat

/-- The stemcell formats this library boots and the highest API version it speaks. -/
def CpiInfo.current : CpiInfo := ⟨["warden-tar", "general-tar"], 2⟩

/-- As written. -/
def CpiInfo.toJson (i : CpiInfo) : Json :=
  .object [("stemcell_formats", Json.strings i.stemcellFormats), ("api_version", Json.nat i.apiVersion)]

/-- The program's configuration: the cloud configuration and logging. -/
structure ServiceConfig where
  cpi : CpiConfig
  logging : LoggingConfig
  deriving Inhabited

namespace ServiceConfig

/-- Decoding: the cloud configuration's keys beside an optional `logging`. -/
def decoder : Decoder ServiceConfig :=
  Decoder.recordFlat "BinConfig" [Decoder.field "logging" LoggingConfig.decoder]
    fun f => do
      let cpi ← f.flattened CpiConfig.decoder
      let logging ← f.opt "logging" LoggingConfig.decoder LoggingConfig.default
      return ⟨cpi, logging⟩

/-- The endpoint for one call: the context's endpoint (inheriting the configured API version
when it names none), validated; else the configured one as is. -/
def dockerOpts (c : ServiceConfig) (context : Option DockerOpts) : CpiResult DockerOpts :=
  match context with
  | some o =>
    let o := if o.apiVersion.isEmpty then { o with apiVersion := c.cpi.docker.apiVersion } else o
    o.validate.map fun _ => o
  | none => .ok c.cpi.docker

end ServiceConfig

end ContainerCpi
