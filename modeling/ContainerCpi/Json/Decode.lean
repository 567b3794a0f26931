import ContainerCpi.Json.Read
import ContainerCpi.Json.Print
import ContainerCpi.Text.Debug
import ContainerCpi.Text.Utf8

/-!
# Typed decoding

A `Decoder α` turns a `Doc` into an `α` or explains why it cannot, in the words of the
documents' conventions: `invalid type: string "x", expected a boolean`,
`invalid value: integer `300`, expected u8`, `missing field `id``, `duplicate field `a``,
`unknown variant `x`, expected `a` or `b``.  A document read from text also reports where:
a scalar of the wrong type at the offset after it, a container of the wrong type at its
opening bracket, a missing field after the closing brace of its record.

Records decode field by field in text order: every field's value is checked when it is met,
so the first fault of the text wins, whether it is a wrong type, a repeated field or a
syntax error.  Only then are absent fields resolved, in declaration order.  A record may
also be written as an array of its fields in declaration order.

A record with a *flattened* part hands the fields it does not know to that part, which
decodes them as a value in memory: its errors carry no offset of their own and are
reported after the closing brace of the whole record.
-/

namespace ContainerCpi

/-- Why decoding failed, the character offset to report (for documents read from text), and,
when the failure is a flaw of the text itself rather than of the form of its value, which
flaw.  A failure found only once a value had been read whole (a value of the right kind
that its type refuses) is reported where the record holding it was left: `settles` says
that `index` is the end of the value, and that the report moves past the blanks after it
and the record's closing bracket if that comes next. -/
structure DecodeError where
  message : String
  index : Option Nat
  code : Option SyntaxCode
  settles : Bool

namespace DecodeError

/-- A syntax error met while decoding. -/
def ofSyntax (e : SyntaxError) : DecodeError := ⟨e.code.message, some e.index, some e.code, false⟩

/-- A fault of form, reported at `index`. -/
def ofForm (message : String) (index : Option Nat) : DecodeError := ⟨message, index, none, false⟩

/-- A value refused after it was read whole; where it is reported is settled by the record
holding it. -/
def refused (message : String) : DecodeError := ⟨message, none, none, false⟩

/-- Whether the failure is a flaw of the text. -/
def syntactic (e : DecodeError) : Bool := e.code.isSome

/-- The characters of `source` from byte offset `i` on (from the character holding it). -/
def dropBytes : List Char → Nat → List Char
  | [], _ => []
  | c :: rest, i => if i = 0 then c :: rest else dropBytes rest (i - min i c.utf8Size)

/-- The offset a failure is reported at in `source`: a settling failure moves past the
blanks after its value and a closing bracket right after them. -/
def reportAt (source : List Char) (e : DecodeError) : Option Nat :=
  e.index.map fun i =>
    if e.settles then
      let rest := dropBytes source i
      let blanks := (rest.takeWhile fun c => c = ' ' ∨ c = '\t' ∨ c = '\n' ∨ c = '\r').length
      match rest.drop blanks with
      | c :: _ => if c = '\x7d' ∨ c = ']' then i + blanks + 1 else i + blanks
      | [] => i + blanks
    else i

/-- The message, with the line and column of its offset in `source` when it has one. -/
def render (source : List Char) (e : DecodeError) : String :=
  match e.reportAt source with
  | none => e.message
  | some i =>
    let p := Position.ofIndex source i
    let line := p.line
    let column := p.column
    let m := e.message
    s!"{m} at line {line} column {column}"

end DecodeError

/-- A decoder of `α` values. -/
abbrev Decoder (α : Type) := Doc → Except DecodeError α

namespace Doc

/-- The offset that an error about this value as a whole is reported at: after an atom,
at the bracket of a container. -/
def reportIndex : Doc → Option Nat
  | .atom _ span => span.map (·.2)
  | .array start _ _ => start
  | .object start _ _ => start
  | .broken e => some e.parse.index

/-- The offset just after the value, for a value read from text. -/
def endIndex : Doc → Option Nat
  | .atom _ span => span.map (·.2)
  | .array _ _ close => match close with
    | .ok i => i
    | .error _ => none
  | .object _ _ close => match close with
    | .ok i => i
    | .error _ => none
  | .broken _ => none

/-- The value without offsets, as a value buffered from text is held: every entry of an
object is kept, repeated keys included (syntax errors must have been ruled out). -/
def erase : Doc → Doc
  | .atom v _ => .atom v none
  | .array _ items _ => .array none (eraseItems items) (.ok none)
  | .object _ fs _ => .object none (eraseFields fs) (.ok none)
  | .broken e => .broken e
where
  eraseItems : List Doc → List Doc
    | [] => []
    | d :: ds => erase d :: eraseItems ds
  eraseFields : List (String × Option EntrySpan × Doc) → List (String × Option EntrySpan × Doc)
    | [] => []
    | (k, _, d) :: fs => (k, none, erase d) :: eraseFields fs

end Doc

namespace Decoder

/-- How an unexpected value is named in messages. -/
def describe : Json → String
  | .null => "null"
  | .bool b => let t := toString b; s!"boolean `{t}`"
  | .number (.unsigned n) => s!"integer `{n}`"
  | .number (.negative n) => s!"integer `{n}`"
  | .number (.double f) => let t := Json.doubleTextIn DoubleLayout.quoted f; s!"floating point `{t}`"
  | .string s => "string " ++ Text.debugQuote s
  | .array _ => "sequence"
  | .object _ => "map"

/-- How a document is named in messages. -/
def describeDoc : Doc → String
  | .atom v _ => describe v
  | .array .. => "sequence"
  | .object .. => "map"
  | .broken _ => "value"

/-- Fail with `message` at the offset of `d`. -/
def failAt {α : Type} (d : Doc) (message : String) : Except DecodeError α :=
  match d with
  | .broken e => .error (.ofSyntax e.parse)
  | _ => .error (.ofForm message d.reportIndex)

/-- The value is of another kind than expected. -/
def invalidType {α : Type} (d : Doc) (expected : String) : Except DecodeError α :=
  let what := describeDoc d
  failAt d s!"invalid type: {what}, expected {expected}"

/-- The value is of the right kind but out of range. -/
def invalidValue {α : Type} (d : Doc) (expected : String) : Except DecodeError α :=
  let what := describeDoc d
  failAt d s!"invalid value: {what}, expected {expected}"

/-- The list `a`, `a` or `b`, or one of `a`, `b`, `c`. -/
def oneOf (names : List String) : String :=
  let q (n : String) : String := "`" ++ n ++ "`"
  match names with
  | [] => "nothing"
  | [a] => q a
  | [a, b] => q a ++ " or " ++ q b
  | _ => "one of " ++ ", ".intercalate (names.map q)

/-- A string. -/
def string : Decoder String
  | .atom (.string s) _ => .ok s
  | d => invalidType d "a string"

/-- A boolean. -/
def bool : Decoder Bool
  | .atom (.bool b) _ => .ok b
  | d => invalidType d "a boolean"

/-- An integer type: its name and bounds. -/
structure IntKind where
  name : String
  min : Int
  max : Int

namespace IntKind
def i64 : IntKind := ⟨"i64", -(Int.pow 2 63), Int.pow 2 63 - 1⟩
def i32 : IntKind := ⟨"i32", -(Int.pow 2 31), Int.pow 2 31 - 1⟩
def u64 : IntKind := ⟨"u64", 0, Int.pow 2 64 - 1⟩
def u32 : IntKind := ⟨"u32", 0, Int.pow 2 32 - 1⟩
def u16 : IntKind := ⟨"u16", 0, Int.pow 2 16 - 1⟩
def u8 : IntKind := ⟨"u8", 0, 255⟩
def usize : IntKind := ⟨"usize", 0, Int.pow 2 64 - 1⟩
end IntKind

/-- An integer within the bounds of `k`. -/
def int (k : IntKind) : Decoder Int
  | d@(.atom (.number (.unsigned n)) _) =>
    if (n : Int) ≤ k.max then .ok n else invalidValue d k.name
  | d@(.atom (.number (.negative n)) _) =>
    if k.min ≤ n then .ok n else invalidValue d k.name
  | d => invalidType d k.name

/-- A natural number within the bounds of an unsigned `k`. -/
def nat (k : IntKind) : Decoder Nat := fun d => (int k d).map Int.toNat

/-- `null` as `none`, anything else through `inner`. -/
def option {α : Type} (inner : Decoder α) : Decoder (Option α)
  | .atom .null _ => .ok none
  | d => (inner d).map some

/-- Any value. -/
def json : Decoder Json := fun d => d.toJson.mapError .ofSyntax

/-- Decode items in order, stopping at the first failure. -/
def items {α : Type} (inner : Decoder α) : List Doc → Except DecodeError (List α)
  | [] => .ok []
  | d :: ds => do
    let a ← inner d
    let as ← items inner ds
    return a :: as

/-- An array, item by item. -/
def list {α : Type} (inner : Decoder α) : Decoder (List α)
  | .array _ ds close => do
    let xs ← items inner ds
    let _ ← close.mapError (DecodeError.ofSyntax ·.parse)
    return xs
  | d => invalidType d "a sequence"

/-- Put `v` under `k`, keeping keys sorted and distinct; a later value replaces an earlier. -/
def insertSorted {α : Type} (k : String) (v : α) : List (String × α) → List (String × α)
  | [] => [(k, v)]
  | (k', v') :: rest =>
    if k = k' then (k, v) :: rest
    else if k < k' then (k, v) :: (k', v') :: rest
    else (k', v') :: insertSorted k v rest

/-- Decode the values of fields in order. -/
def fieldValues {α : Type} (inner : Decoder α) :
    List (String × Option EntrySpan × Doc) → Except DecodeError (List (String × α))
  | [] => .ok []
  | (k, _, d) :: ds => do
    let a ← inner d
    let as ← fieldValues inner ds
    return (k, a) :: as

/-- An object's entries in the order they are written, repeated keys included. -/
def entries {α : Type} (inner : Decoder α) : Decoder (List (String × α))
  | .object _ fs close => do
    let kvs ← fieldValues inner fs
    let _ ← close.mapError (DecodeError.ofSyntax ·.parse)
    return kvs
  | d => invalidType d "a map"

/-- An object as a map from keys to values, sorted by key; a repeated key keeps its last
value. -/
def map {α : Type} (inner : Decoder α) : Decoder (List (String × α))
  | .object _ fs close => do
    let kvs ← fieldValues inner fs
    let _ ← close.mapError (DecodeError.ofSyntax ·.parse)
    return kvs.foldl (fun acc kv => insertSorted kv.1 kv.2 acc) []
  | d => invalidType d "a map"

/-- An object without entries: each key is refused, as no value stands for it. -/
def emptyMap : Decoder Unit
  | .object _ fs close =>
    match fs with
    | [] => (close.mapError (DecodeError.ofSyntax ·.parse)).map fun _ => ()
    | (k, span, _) :: _ =>
      let shown := Text.debugQuote k
      .error (.ofForm s!"invalid type: string {shown}, expected unit" (span.map (·.colon)))
  | d => invalidType d "a map"

/-- An object as a map of values. -/
def objectMap : Decoder (List (String × Json)) := map json

/-- One of the named variants, written as its name or as an object whose one entry has the
name as key and `null` as value.

Read from text, such an object is read the way a reader of a variant reads it, left to
right, and a fault is reported where that reading stops: a first key that is no name is
refused just after it; the value of a named key must be `null` (it stands for no content);
and the object must close right after that value, so a comma there is refused where it
stands.  An object without a key is refused at its closing brace, where a name was looked
for.  Any other value read from text is refused where it starts, as no variant begins
there; in memory, a value of the wrong kind or an object with other than one entry is
refused as such. -/
def variant (names : List String) : Decoder String
  | d@(.atom (.string s) _) =>
    if names.contains s then .ok s
    else
      let expected := oneOf names
      failAt d s!"unknown variant `{s}`, expected {expected}"
  | .broken e => .error (.ofSyntax e.parse)
  | .object (some _) fields close =>
    match fields with
    | [] =>
      match close with
      | .ok after => .error (.ofSyntax ⟨.expectedValue, after.getD 0⟩)
      | .error f =>
        let code := match f.parse.code with
          | .keyMustBeString => .expectedValue
          | .eofObject => .eofValue
          | other => other
        .error (.ofSyntax ⟨code, f.parse.index⟩)
    | (k, span, v) :: more =>
      let resume := (span.map (·.resume)).getD 0
      if names.contains k then
        match v, more, close with
        | .broken e, _, _ => .error (.ofSyntax e.parse)
        | .atom .null _, [], .ok _ => .ok k
        | .atom .null _, [], .error f =>
          let code := if f.parse.code = .eofObject then SyntaxCode.eofObject else .expectedValue
          .error (.ofSyntax ⟨code, resume⟩)
        | .atom .null _, _ :: _, _ => .error (.ofSyntax ⟨.expectedValue, resume⟩)
        | _, _, _ => invalidType v "unit"
      else
        let expected := oneOf names
        .error (.ofForm s!"unknown variant `{k}`, expected {expected}" (span.map (·.keyEnd)))
  | d@(.object none fields _) =>
    match fields with
    | [(k, _, v)] =>
      if names.contains k then
        match v with
        | .atom .null _ => .ok k
        | _ => invalidType v "unit"
      else
        let expected := oneOf names
        .error (.ofForm s!"unknown variant `{k}`, expected {expected}" none)
    | _ => invalidValue d "map with a single key"
  | d =>
    match d with
    | .atom _ (some (start, _)) => .error (.ofSyntax ⟨.expectedValue, start + 1⟩)
    | .array (some start) _ _ => .error (.ofSyntax ⟨.expectedValue, start + 1⟩)
    | _ => invalidType d "string or map"

/-- One recognized field of a record: its name, other keys that mean it, and a check of its
value. -/
structure Field where
  name : String
  aliases : List String
  check : Doc → Except DecodeError Unit

/-- A field decoded by `d`, also written under the keys `aliases`. -/
def fieldAka {α : Type} (name : String) (aliases : List String) (d : Decoder α) : Field :=
  ⟨name, aliases, fun doc => (d doc).map (fun _ => ())⟩

/-- A field decoded by `d`. -/
def field {α : Type} (name : String) (d : Decoder α) : Field := fieldAka name [] d

/-- The fields a record decoder found. -/
structure Found where
  /-- Recognized fields by name, as written. -/
  values : List (String × Doc)
  /-- Unrecognized fields, in text order. -/
  rest : List (String × Option EntrySpan × Doc)
  /-- Offset after the closing bracket. -/
  close : Option Nat
  /-- For a record written as an array: the message naming its length. -/
  sequence : Option String
  /-- Field names in declaration order. -/
  order : List String

namespace Found

variable (f : Found)

/-- The document of a field, if present. -/
def get? (name : String) : Option Doc := (f.values.find? (·.1 == name)).map (·.2)

/-- The error for a required field that is absent. -/
def missing (name : String) : DecodeError :=
  match f.sequence with
  | some expected =>
    let i := f.order.idxOf name
    .ofForm s!"invalid length {i}, expected {expected}" f.close
  | none => .ofForm s!"missing field `{name}`" f.close

/-- A required field. -/
def req {α : Type} (name : String) (d : Decoder α) : Except DecodeError α :=
  match f.get? name with
  | some doc => d doc
  | none => .error (f.missing name)

/-- A field with a default for when it is absent. -/
def opt {α : Type} (name : String) (d : Decoder α) (default : α) : Except DecodeError α :=
  match f.get? name with
  | some doc => d doc
  | none => .ok default

/-- An optional field: absent reads as `none` in a record written as an object. -/
def option {α : Type} (name : String) (d : Decoder α) : Except DecodeError (Option α) :=
  match f.get? name with
  | some doc => Decoder.option d doc
  | none => if f.sequence.isSome then .error (f.missing name) else .ok none

/-- An optional field whose decoder reads `null` itself: absent reads as `none` in a record
written as an object. -/
def present {α : Type} (name : String) (d : Decoder α) : Except DecodeError (Option α) :=
  match f.get? name with
  | some doc => (d doc).map some
  | none => if f.sequence.isSome then .error (f.missing name) else .ok none

/-- Decode the unrecognized fields as a record in memory; its errors are reported after
the closing brace. -/
def flattened {α : Type} (d : Decoder α) : Except DecodeError α :=
  let inner := Doc.object none (f.rest.map fun (k, _, v) => (k, none, v.erase)) (.ok none)
  match d inner with
  | .ok a => .ok a
  | .error e => .error { e with index := e.index.or f.close }

end Found

/-- Check the fields of an object in text order: each recognized field once, its value
checked.  An unrecognized value is skipped, or, when `keep` holds (it goes to a flattened
part), parsed whole. -/
def scanFields (keep : Bool) (fields : List Field) :
    List (String × Option EntrySpan × Doc) → List (String × Doc) → List (String × Option EntrySpan × Doc) →
    Except DecodeError (List (String × Doc) × List (String × Option EntrySpan × Doc))
  | [], seen, rest => .ok (seen.reverse, rest.reverse)
  | (k, span, d) :: more, seen, rest =>
    match fields.find? (fun fl => fl.name == k || fl.aliases.contains k) with
    | some fl =>
      if seen.any (·.1 == fl.name) then
        let n := fl.name
        .error (.ofForm s!"duplicate field `{n}`" (span.map (·.colon)))
      else do
        (fl.check d).mapError fun e =>
          if e.index.isNone then { e with index := d.endIndex, settles := true } else e
        scanFields keep fields more ((fl.name, d) :: seen) rest
    | none =>
      match if keep then d.firstError else d.skipError with
      | some e => .error (.ofSyntax e)
      | none => scanFields keep fields more seen ((k, span, d) :: rest)

/-- A record named `name` with the given fields, assembled by `build`.  When `flatten`
holds the record has a flattened part and must be written as an object. -/
def recordWith {α : Type} (flatten : Bool) (name : String) (fields : List Field)
    (build : Found → Except DecodeError α) : Decoder α
  | .object _ fs close => do
    let (values, rest) ← scanFields flatten fields fs [] []
    let closeAt ← close.mapError (DecodeError.ofSyntax ·.parse)
    build ⟨values, rest, closeAt, none, fields.map (·.name)⟩
  | d@(.array _ ds close) =>
    if flatten then invalidType d s!"struct {name}"
    else do
      let n := fields.length
      let expected := s!"struct {name} with {n} element" ++ if n = 1 then "" else "s"
      let paired := fields.zip ds
      for (fl, doc) in paired do
        fl.check doc
      let closeAt ← close.mapError (DecodeError.ofSyntax ·.parse)
      if ds.length > n then
        match d with
        | .array none _ _ =>
          let len := ds.length
          .error (.ofForm s!"invalid length {len}, expected fewer elements in array" none)
        | _ =>
          match ds.drop n with
          | extra :: _ =>
            match extra with
            | .atom _ (some (s, _)) => .error (.ofSyntax ⟨.trailingCharacters, s + 1⟩)
            | .array (some s) _ _ => .error (.ofSyntax ⟨.trailingCharacters, s + 1⟩)
            | .object (some s) _ _ => .error (.ofSyntax ⟨.trailingCharacters, s + 1⟩)
            | _ => .error ⟨SyntaxCode.trailingCharacters.message, closeAt, some .trailingCharacters, false⟩
          | [] => build ⟨paired.map (fun (fl, doc) => (fl.name, doc)), [], closeAt, some expected,
              fields.map (·.name)⟩
      else
        build ⟨paired.map (fun (fl, doc) => (fl.name, doc)), [], closeAt, some expected,
          fields.map (·.name)⟩
  | d => invalidType d s!"struct {name}"

/-- A record named `name` with the given fields, assembled by `build`. -/
def record {α : Type} (name : String) (fields : List Field) (build : Found → Except DecodeError α) :
    Decoder α :=
  recordWith false name fields build

/-- A record with a flattened part: it must be written as an object. -/
def recordFlat {α : Type} (name : String) (fields : List Field)
    (build : Found → Except DecodeError α) : Decoder α :=
  recordWith true name fields build

/-- Decode a value in memory. -/
def run {α : Type} (d : Decoder α) (v : Json) : Except String α :=
  (d (Doc.ofJson v)).mapError (·.message)

/-- Decode a text; errors name their line and column.  Text after the value is an error
only when the value itself decodes. -/
def runText {α : Type} (d : Decoder α) (text : String) : Except String α :=
  let r := ReadText.of text
  match d r.doc with
  | .error e => .error (e.render r.source)
  | .ok a =>
    match r.trailing with
    | some e => .error (e.render r.source)
    | none => .ok a

/-- Decode the bytes of a text as a reader of bytes does.  Well-formed UTF-8 decodes as its
text.  Otherwise each byte of an ill-formed subsequence is read as an `x`, which no value
starts with and no escape or number takes, so reading goes around it as around the byte;
and a string holding one is refused where parsing meets it, just after its closing quote,
while a value skipped unread may hold one (`Doc.refuse`). -/
def runBytes {α : Type} (d : Decoder α) (bytes : List UInt8) : Except String α :=
  match Utf8.marked 0 bytes with
  | (cs, []) => runText d (String.ofList cs)
  | (cs, bad) =>
    let r := ReadText.of (String.ofList cs)
    match d (r.doc.refuse (Reader.illFormedStrings bad r.source 0 none)) with
    | .error e => .error (e.render r.source)
    | .ok a =>
      match r.trailing with
      | some e => .error (e.render r.source)
      | none => .ok a

/-- Why a text could not be decoded, with the message and its position: the text ends
before its document does (`cutShort`), it is otherwise not a well-formed document
(`broken`), or it is one of the wrong form (`mismatch`). -/
inductive TextFault where
  | cutShort (message : String)
  | broken (message : String)
  | mismatch (message : String)

/-- The message of a fault, whatever its kind. -/
def TextFault.message : TextFault → String
  | .cutShort m => m
  | .broken m => m
  | .mismatch m => m

/-- Decode a text, telling syntax faults from faults of form. -/
def readText {α : Type} (d : Decoder α) (text : String) : Except TextFault α :=
  let r := ReadText.of text
  match d r.doc with
  | .error e =>
    let rendered := e.render r.source
    .error <| match e.code with
      | some code => if code.isEndOfText then .cutShort rendered else .broken rendered
      | none => .mismatch rendered
  | .ok a =>
    match r.trailing with
    | some e => .error (.broken (e.render r.source))
    | none => .ok a

/-- A text value that names one of `names`, the empty text and `null` naming none.
Another text is refused once read, as an invalid choice. -/
def textChoice (names : List String) : Decoder (Option String)
  | .atom .null _ => .ok none
  | d => do
    let s ← string d
    if s.isEmpty then return none
    else if names.contains s then return some s
    else throw (.refused s!"Invalid enum type: {s}")

end Decoder

end ContainerCpi
