import ContainerCpi.Json.Decode

/-!
# Shapes of engine documents

The engine's API describes its documents (host configurations, mounts, endpoint settings,
container configurations) as records of optional fields, lists, string-keyed maps and
closed sets of names.  A `Shape` is such a description, and `Shape.decode` checks a value
against it and returns the value's *canonical form*: the document as the engine would be
sent it after reading it.

Canonical forms are what this library stores.  In a record a field is optional unless
declared required, and an absent or `null` optional field is left out; unknown fields are
dropped; maps are sorted by key; a list of keys (`keySet`, how the engine writes exposed
ports) is an object whose values are empty objects, its keys kept in the order first
written, each once.  A list of keys written as `null` is no keys rather than absent.
Decoding follows the record conventions of `Decoder`: fields are checked in the order they
are met and a record may be written as an array of all its fields.
-/

namespace ContainerCpi

/-- A list of keys: an object whose values are empty objects, each key once in the order
first written, or `null` for no keys. -/
def keySetDecoder : Decoder Json
  | .atom .null _ => .ok (.object [])
  | d => (Decoder.entries Decoder.emptyMap d).map fun kvs =>
    .object ((kvs.map (·.1)).eraseDups.map fun k => (k, .object []))

mutual

/-- The shape of a value in an engine document. -/
inductive Shape where
  /-- An integer of the given machine type. -/
  | int (kind : Decoder.IntKind)
  | bool
  | string
  /-- Any JSON value. -/
  | any
  | list (item : Shape)
  /-- An object with arbitrary keys. -/
  | map (value : Shape)
  /-- `null` or the inner shape (`null` is kept). -/
  | nullable (inner : Shape)
  /-- One of the given names, written as a string. -/
  | choice (names : List String)
  /-- A list of keys, written as an object whose values are empty objects. -/
  | keySet
  /-- A named record of optional fields. -/
  | record (name : String) (slots : Slots)

/-- The fields of a record, in declaration order. -/
inductive Slots where
  | nil
  /-- An optional field. -/
  | cons (name : String) (shape : Shape) (rest : Slots)
  /-- A required field. -/
  | need (name : String) (shape : Shape) (rest : Slots)

end

mutual

/-- Check a value against a shape, returning its canonical form. -/
def Shape.decode : Shape → Decoder Json
  | .int k => fun d => (Decoder.int k d).map Json.int
  | .bool => fun d => (Decoder.bool d).map .bool
  | .string => fun d => (Decoder.string d).map .string
  | .any => Decoder.json
  | .list item => fun d => (Decoder.list item.decode d).map .array
  | .map value => fun d => (Decoder.map value.decode d).map .object
  | .nullable inner => fun d => (Decoder.option inner.decode d).map (Json.opt id)
  | .choice names => fun d => (Decoder.variant names d).map .string
  | .keySet => keySetDecoder
  | .record name slots => Decoder.record name slots.fields fun f => (slots.collect f).map .object

/-- The record fields, each checked by its shape. -/
def Slots.fields : Slots → List Decoder.Field
  | .nil => []
  | .cons name .keySet rest => Decoder.field name (fun d => (keySetDecoder d).map some) :: rest.fields
  | .cons name shape rest => Decoder.field name (Decoder.option shape.decode) :: rest.fields
  | .need name shape rest => Decoder.field name shape.decode :: rest.fields

/-- The canonical fields present in a record, in declaration order. -/
def Slots.collect : Slots → Decoder.Found → Except DecodeError (List (String × Json))
  | .nil, _ => .ok []
  | .cons name shape rest, f => do
    let v ← match shape with
      | .keySet => f.present name keySetDecoder
      | shape => f.option name shape.decode
    let vs ← rest.collect f
    return match v with
      | some j => (name, j) :: vs
      | none => vs
  | .need name shape rest, f => do
    let v ← f.req name shape.decode
    let vs ← rest.collect f
    return (name, v) :: vs

end

namespace Slots

/-- Slots from a list of optional fields. -/
def ofList : List (String × Shape) → Slots
  | [] => .nil
  | (n, s) :: rest => .cons n s (ofList rest)

/-- The field names, in declaration order. -/
def names : Slots → List String
  | .nil => []
  | .cons n _ rest => n :: rest.names
  | .need n _ rest => n :: rest.names

end Slots

namespace Shape

/-- A 64-bit signed integer. -/
def i64 : Shape := .int Decoder.IntKind.i64

/-- A list of strings. -/
def strings : Shape := .list .string

/-- A map of strings. -/
def stringMap : Shape := .map .string

/-- A record from a list of optional fields. -/
def recordOf (name : String) (fields : List (String × Shape)) : Shape :=
  .record name (Slots.ofList fields)

/-- A record whose fields are all required. -/
def recordNeeding (name : String) (fields : List (String × Shape)) : Shape :=
  .record name (fields.foldr (fun (n, s) rest => .need n s rest) .nil)

end Shape

/-! ## Reading canonical documents -/

namespace Json

/-- An integer value. -/
def int? : Json → Option Int
  | .number (.unsigned n) => some n
  | .number (.negative n) => some n
  | _ => none

/-- A boolean value. -/
def bool? : Json → Option Bool
  | .bool b => some b
  | _ => none

/-- A list of strings (items that are not strings are skipped). -/
def strings? (j : Json) : Option (List String) :=
  j.items?.map (·.filterMap str?)

@[simp] theorem strings?_strings (xs : List String) : strings? (strings xs) = some xs := by
  have hsome : (str? ∘ Json.string) = some := funext fun _ => rfl
  simp only [strings?, strings, items?, Option.map_some, List.filterMap_map, hsome,
    List.filterMap_some]

/-- A string map (values that are not strings are skipped). -/
def stringMap? (j : Json) : Option (List (String × String)) :=
  j.fields?.map fun fs => fs.filterMap fun (k, v) => v.str?.map (k, ·)

/-- Set field `k` of an object to `v`, keeping a sorted object sorted. -/
def setField (j : Json) (k : String) (v : Json) : Json :=
  .object (Json.Fields.insert k v (j.fields?.getD []))

end Json

end ContainerCpi
