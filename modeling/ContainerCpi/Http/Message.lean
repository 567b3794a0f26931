import ContainerCpi.Json.Print
import ContainerCpi.Text.Utf8

/-!
# HTTP messages

A container engine's API is spoken over HTTP.  A request is a method, a path, query
parameters and an optional body; a response is a status and the bytes of its body.

Query parameters are kept decoded, in the order the client writes them.  A JSON body is kept
as the value it carries, other bodies as bytes; `Body.bytes` gives what goes on the wire,
the value's compact text for a JSON body.
-/

namespace ContainerCpi

namespace Http

/-- The request methods the engine API uses. -/
inductive Method where
  | get | post | put | delete | head
  deriving DecidableEq, Repr, Inhabited

/-- The method's name on the wire. -/
def Method.name : Method → String
  | .get => "GET"
  | .post => "POST"
  | .put => "PUT"
  | .delete => "DELETE"
  | .head => "HEAD"

/-- A request body. -/
inductive Body where
  | json (value : Json)
  | raw (data : List UInt8)
  deriving Inhabited

/-- The bytes of a body on the wire. -/
def Body.bytes : Body → List UInt8
  | .json v => Utf8.encode v.render
  | .raw data => data

/-- One request to the engine. -/
structure Request where
  method : Method
  path : String
  query : List (String × String)
  body : Option Body
  deriving Inhabited

/-- One answer of the engine. -/
structure Response where
  status : Nat
  body : List UInt8
  deriving Inhabited

namespace Response

/-- Whether the status is one a client reads as success: any 2xx, `101` (switching
protocols) and `304` (not modified, as when starting a running container). -/
def isSuccess (r : Response) : Bool :=
  (200 ≤ r.status && r.status < 300) || r.status == 101 || r.status == 304

/-- The body as text; bytes that are not UTF-8 become replacement characters. -/
def text (r : Response) : String := Utf8.lossy r.body

end Response

end Http

end ContainerCpi
