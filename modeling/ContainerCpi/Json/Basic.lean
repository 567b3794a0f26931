/-!
# JSON values

The documents this library reads and writes: the director's requests, cloud properties,
the agent environment, engine bodies.  A number keeps the three shapes a reader gives it
(an unsigned 64-bit integer, a negative 64-bit integer, a double), because error texts
and equality tell them apart: `1` and `1.0` are different values.

An object keeps its fields in the order they are written out.  Objects read from text are
*maps*: their keys are distinct and sorted by code point (the order of UTF-8 bytes), and a
key written twice keeps its last value (`Json.Fields.insert`).  Objects built from records
keep the record's field order.
-/

namespace ContainerCpi

/-- A JSON number in the three shapes a reader produces. -/
inductive Number where
  /-- An integer from `0` to `2^64 - 1`. -/
  | unsigned (n : Nat)
  /-- An integer from `-2^63` to `-1`. -/
  | negative (n : Int)
  /-- Anything else: a double (never NaN or infinite when read from text). -/
  | double (f : Float)

namespace Number

/-- Same shape and same value; doubles compare as IEEE numbers. -/
def beq : Number → Number → Bool
  | .unsigned a, .unsigned b => a == b
  | .negative a, .negative b => a == b
  | .double a, .double b => a == b
  | _, _ => false

instance : BEq Number := ⟨beq⟩

/-- The number for an integer: unsigned when not negative. -/
def ofInt (i : Int) : Number :=
  if i < 0 then .negative i else .unsigned i.toNat

end Number

/-- A JSON value. -/
inductive Json where
  | null
  | bool (b : Bool)
  | number (n : Number)
  | string (s : String)
  | array (items : List Json)
  | object (fields : List (String × Json))
  deriving Inhabited

namespace Json

/-- Structural equality; objects compare field by field in their order. -/
def beq : Json → Json → Bool
  | .null, .null => true
  | .bool a, .bool b => a == b
  | .number a, .number b => a == b
  | .string a, .string b => a == b
  | .array as, .array bs => beqList as bs
  | .object as, .object bs => beqFields as bs
  | _, _ => false
where
  beqList : List Json → List Json → Bool
    | [], [] => true
    | a :: as, b :: bs => beq a b && beqList as bs
    | _, _ => false
  beqFields : List (String × Json) → List (String × Json) → Bool
    | [], [] => true
    | (k, a) :: as, (l, b) :: bs => k == l && beq a b && beqFields as bs
    | _, _ => false

instance : BEq Json := ⟨beq⟩

/-- An integer value. -/
def int (i : Int) : Json := .number (Number.ofInt i)

/-- A natural-number value. -/
def nat (n : Nat) : Json := .number (.unsigned n)

/-- A string list as an array. -/
def strings (xs : List String) : Json := .array (xs.map .string)

/-- `none` as `null`. -/
def opt {α : Type} (f : α → Json) : Option α → Json
  | none => .null
  | some a => f a

/-- The value of field `key`, if this is an object that has it (the last one written). -/
def field? (j : Json) (key : String) : Option Json :=
  match j with
  | .object fs => (fs.reverse.find? (·.1 == key)).map (·.2)
  | _ => none

/-- The string inside, if this is a string. -/
def str? : Json → Option String
  | .string s => some s
  | _ => none

/-- The items, if this is an array. -/
def items? : Json → Option (List Json)
  | .array xs => some xs
  | _ => none

/-- The fields, if this is an object. -/
def fields? : Json → Option (List (String × Json))
  | .object fs => some fs
  | _ => none

end Json

namespace Json.Fields

/-- Put `v` under `k` in a map: the value of an existing key is replaced in place, a new key
goes before the first larger key, so a sorted map stays sorted. -/
def insert (k : String) (v : Json) : List (String × Json) → List (String × Json)
  | [] => [(k, v)]
  | (k', v') :: rest =>
    if k = k' then (k, v) :: rest
    else if k < k' then (k, v) :: (k', v') :: rest
    else (k', v') :: insert k v rest

/-- A map holding the given pairs; a later pair wins over an earlier one with its key. -/
def ofList (pairs : List (String × Json)) : List (String × Json) :=
  pairs.foldl (fun acc p => insert p.1 p.2 acc) []

/-- Put `v` under `k` in a record: the value of an existing key is replaced in place, a new
key goes last, so the order of the record's fields is kept. -/
def set (k : String) (v : Json) : List (String × Json) → List (String × Json)
  | [] => [(k, v)]
  | (k', v') :: rest => if k = k' then (k, v) :: rest else (k', v') :: set k v rest

/-- Drop key `k`. -/
def erase (k : String) (fs : List (String × Json)) : List (String × Json) :=
  fs.filter (·.1 != k)

theorem find?_set_self (k : String) (v : Json) (fs : List (String × Json)) :
    (set k v fs).find? (·.1 == k) = some (k, v) := by
  induction fs with
  | nil => simp [set]
  | cons p rest ih =>
    obtain ⟨k', v'⟩ := p
    by_cases h : k = k'
    · simp [set, h]
    · have hne : (k' == k) = false := by simpa using fun e => h e.symm
      simp [set, h, hne, ih]

end Json.Fields

end ContainerCpi
