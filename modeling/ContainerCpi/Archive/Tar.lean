import ContainerCpi.Text.Utf8
import ContainerCpi.Text.Basic

/-!
# Tape archives

Files cross into and out of containers as tape archives: a 512-byte header block per
member, the member's bytes padded to whole blocks, and two zero blocks at the end.

**Writing.**  A member header is a GNU header (magic `ustar `, version ` \0`) with the
member's mode and size as zero-padded octal fields (in binary when they have more digits
than their field holds), modification time 0, and the checksum (the byte sum of the header
with the checksum field read as eight spaces).  The member's
path goes into the 100-byte name field part by part: a leading `/` or any `..` is refused,
`.` parts are dropped (a path that is only `.` keeps it), and the parts are joined by `/`.
A path of 100 bytes or more that does not fit gets a `././@LongLink` member of type `L`
before it, holding the whole path and a NUL; the header itself then holds the path's first
100 bytes (cut back to whole characters).

**Reading.**  Members are read one header at a time until the end of the bytes or an
all-zero header.  Each header must have a valid checksum and octal checksum and size
fields.  `L`, `K` and `x` members of GNU or POSIX headers are not members of their own:
they carry the long path, the long link target, or `key=value` records (`path`, `size`)
for the member after them.  A member whose data is cut short is read short; a cut header,
or data that ends before the next header, stops the reading with an error.
-/

namespace ContainerCpi

namespace Tar

/-! ## Fields -/

/-- Headers and data are laid out in blocks of this many bytes. -/
def blockSize : Nat := 512

/-- Zero bytes up to the next whole block after `n` bytes. -/
def padding (n : Nat) : List UInt8 := List.replicate ((blockSize - n % blockSize) % blockSize) 0

/-- The bytes of a field of `width` bytes holding `bytes`, padded with NULs. -/
def field (width : Nat) (bytes : List UInt8) : List UInt8 :=
  (bytes ++ List.replicate width 0).take width

/-- The bytes of a numeric field of `width` bytes: the low `width - 1` octal digits of `v`,
zero-padded, then a NUL. -/
def octalField (width v : Nat) : List UInt8 :=
  let digits := Utf8.ascii (String.ofList (Nat.toDigits 8 v))
  let n := width - 1
  let digits := if digits.length ≥ n then digits.drop (digits.length - n)
    else List.replicate (n - digits.length) 0x30 ++ digits
  digits ++ [0]

/-- The low `count` bytes of `v`, the most significant first. -/
def bigEndian (count v : Nat) : List UInt8 :=
  (List.range count).reverse.map fun i => (v / Nat.pow 256 i % 256).toUInt8

/-- The bytes of a numeric field of `width` bytes in binary: zeros, then the low eight bytes
of `v`, with the first byte's high bit set to mark the form. -/
def binaryField (width v : Nat) : List UInt8 :=
  match List.replicate (width - 8) 0 ++ bigEndian 8 v with
  | b :: rest => (b ||| 0x80) :: rest
  | [] => []

/-- The bytes of a numeric field of `width` bytes: octal digits when `v` has at most
`width - 1` of them, binary otherwise. -/
def numericField (width v : Nat) : List UInt8 :=
  if v < Nat.pow 8 (width - 1) then octalField width v else binaryField width v

/-- A field's bytes up to its first NUL. -/
def truncate (bytes : List UInt8) : List UInt8 := bytes.takeWhile (· != 0)

/-- Bytes `start` to `start + len` of a header. -/
def slice (block : List UInt8) (start len : Nat) : List UInt8 := (block.drop start).take len

/-- The magic and version of GNU headers. -/
def gnuMagic : List UInt8 := Utf8.ascii "ustar " ++ [0x20, 0]

/-- The magic and version of POSIX headers. -/
def ustarMagic : List UInt8 := Utf8.ascii "ustar" ++ [0] ++ Utf8.ascii "00"

/-- Whether a header is a GNU header. -/
def isGnu (block : List UInt8) : Bool := slice block 257 8 == gnuMagic

/-- Whether a header is a POSIX header. -/
def isUstar (block : List UInt8) : Bool := slice block 257 8 == ustarMagic

/-- The checksum of a header: its byte sum with the checksum field read as spaces. -/
def checksum (block : List UInt8) : Nat :=
  let total (bytes : List UInt8) : Nat := bytes.foldl (fun acc b => acc + b.toNat) 0
  total (block.take 148) + 8 * 32 + total (block.drop 156)

/-- The path a header names: the name field, behind the prefix field in POSIX headers. -/
def headerPath (block : List UInt8) : List UInt8 :=
  let name := truncate (slice block 0 100)
  if isUstar block then
    let pre := truncate (slice block 345 155)
    if pre.isEmpty then name else pre ++ [47] ++ name
  else name

/-! ## Writing -/

/-- Why a path cannot name a member. -/
inductive PathError where
  | absolute
  | parent
  | tooLong
  | nulByte
  | empty
  deriving DecidableEq, Repr

/-- The wording of each refusal. -/
def PathError.message : PathError → String
  | .absolute => "paths in archives must be relative"
  | .parent => "paths in archives must not have `..`"
  | .tooLong => "provided value is too long"
  | .nulByte => "provided value contains a nul byte"
  | .empty => "paths in archives must have at least one component"

/-- A part of a path. -/
inductive Component where
  | root
  | current
  | parent
  | normal (bytes : List UInt8)
  deriving DecidableEq, Repr

/-- The bytes a part stands for. -/
def Component.bytes : Component → List UInt8
  | .root => [47]
  | .current => [46]
  | .parent => [46, 46]
  | .normal b => b

/-- The parts of a path: the root when it starts with `/`, `.` when a relative path starts
with a `.` part, then its non-empty parts other than `.`. -/
def components (path : List UInt8) : List Component :=
  let rooted := path.head? == some 47
  let current := !rooted && (path == [46] || path.take 2 == [46, 47])
  let parts := (path.splitOn 47).filterMap fun p =>
    if p.isEmpty || p == [46] then none
    else if p == [46, 46] then some Component.parent
    else some (Component.normal p)
  (if rooted then [Component.root] else []) ++ (if current then [Component.current] else []) ++ parts

/-- Put `bytes` into the name field after the `written` bytes. -/
def place (written bytes : List UInt8) : Except (PathError × List UInt8) (List UInt8) :=
  if bytes.length > 100 - written.length then .error (.tooLong, written)
  else if bytes.contains 0 then .error (.nulByte, written)
  else .ok (written ++ bytes)

/-- Write the parts into the name field.  `single` says the path has one part only (a lone
`.` is kept then), `cut` that the path was cut short (a last `..` may be the start of a
longer part).  Gives the bytes written and whether any part was. -/
def placeParts (single cut : Bool) :
    List Component → List UInt8 → Bool → Bool → Except (PathError × List UInt8) (List UInt8 × Bool)
  | [], written, _, emitted => .ok (written, emitted)
  | c :: cs, written, slash, emitted =>
    let emit : Except (PathError × List UInt8) (List UInt8 × Bool) := do
      let written ← if slash then place written [47] else pure written
      let written ← place written c.bytes
      placeParts single cut cs written (c.bytes != [47]) true
    match c with
    | .root => .error (.absolute, written)
    | .parent => if cut && cs.isEmpty then emit else .error (.parent, written)
    | .current => if single then emit else placeParts single cut cs written slash emitted
    | .normal _ => emit

/-- The name field's bytes for a path, or why it does not fit, with the bytes written
before the refusal. -/
def namePath (path : List UInt8) (cut : Bool) : Except (PathError × List UInt8) (List UInt8) := do
  let parts := components path
  let (written, emitted) ← placeParts (parts.length == 1) cut parts [] false false
  if !emitted then throw (.empty, written)
  if path.getLast? == some 47 then place written [47] else pure written

/-- A header: name, mode, owner fields, size, modification time, type and magic, with
its checksum. -/
def header (name : List UInt8) (mode : Nat) (owner : List UInt8) (size : Nat) (kind : UInt8) :
    List UInt8 :=
  let before := field 100 name ++ numericField 8 mode ++ owner ++ owner ++ numericField 12 size ++
    numericField 12 0
  let after := [kind] ++ List.replicate 100 0 ++ gnuMagic ++ List.replicate 247 0
  before ++ octalField 8 (checksum (before ++ List.replicate 8 0 ++ after)) ++ after

/-- The header of the member carrying a long path of `size` bytes. -/
def longNameHeader (size : Nat) : List UInt8 :=
  header (Utf8.ascii "././@LongLink") 0o644 (octalField 8 0) size 76

/-- Why a member could not be written: the refusal and the path as the name field showed
it then. -/
structure WriteError where
  reason : PathError
  shown : List UInt8
  deriving DecidableEq, Repr

/-- The wording of a refused path. -/
def WriteError.message (e : WriteError) : String :=
  let r := e.reason.message
  let p := Utf8.lossy e.shown
  s!"{r} when setting path for {p}"

/-- The blocks of one member with mode `mode`: its header (after a long-path member when
the path does not fit) and its data. -/
def member (mode : Nat) (path contents : List UInt8) : Except WriteError (List UInt8) :=
  let body := contents ++ padding contents.length
  match namePath path false with
  | .ok name => .ok (header name mode (List.replicate 8 0) contents.length 0 ++ body)
  | .error (reason, shown) =>
    if path.length < 100 then .error ⟨reason, shown⟩
    else
      let long := longNameHeader (path.length + 1) ++ path ++ [0] ++ padding (path.length + 1)
      let cut := path.take (Utf8.validPrefix (path.take 100))
      match namePath cut true with
      | .ok name => .ok (long ++ header name mode (List.replicate 8 0) contents.length 0 ++ body)
      | .error (reason, again) => .error ⟨reason, if again.isEmpty then shown else again⟩

/-- An archive of members with mode `mode`, ended by two zero blocks. -/
def archive (mode : Nat) : List (List UInt8 × List UInt8) → Except WriteError (List UInt8)
  | [] => .ok (List.replicate (2 * blockSize) 0)
  | (path, contents) :: rest => do
    let first ← member mode path contents
    let others ← archive mode rest
    return first ++ others

/-! ## Reading -/

/-- Why an archive could not be read further. -/
inductive ReadError where
  /-- A header block is cut short. -/
  | shortBlock
  | checksumMismatch
  /-- A numeric field is not octal text: its text, and which field of what it is. -/
  | notNumber (text context : String)
  /-- A numeric field is not UTF-8 text: its text, and which field of what it is. -/
  | notText (text context : String)
  /-- The data before the next header ends early. -/
  | skipPastEnd
  | sizeOverflow
  /-- Long-path or extension members with no member after them. -/
  | danglingExtension
  | twoLongNames
  | twoExtensions
  /-- A sparse member whose header is not a GNU header. -/
  | sparseNotGnu
  /-- The archive ends where a sparse member's further map should be. -/
  | sparseMapMissing
  /-- A chunk of a sparse member after data that does not end on a block boundary. -/
  | sparseUnaligned
  | sparseOverlap
  | sparseTooLarge
  /-- The chunks of a sparse member hold more data than its header's size. -/
  | sparseTooMuchData
  /-- The chunks of a sparse member end elsewhere than its real size. -/
  | sparseSizeMismatch
  /-- The chunks of a sparse member hold less data than its header's size. -/
  | sparseDataMismatch
  deriving DecidableEq, Repr

/-- The wording of each failure. -/
def ReadError.message : ReadError → String
  | .shortBlock => "failed to read entire block"
  | .checksumMismatch => "archive header checksum mismatch"
  | .notNumber t c => s!"numeric field was not a number: {t} when getting {c}"
  | .notText t c => s!"numeric field did not have utf-8 text: {t} when getting {c}"
  | .skipPastEnd => "unexpected EOF during skip"
  | .sizeOverflow => "size overflow"
  | .danglingExtension => "members found describing a future member but no future member found"
  | .twoLongNames => "two long name entries describing the same member"
  | .twoExtensions => "two pax extensions entries describing the same member"
  | .sparseNotGnu => "sparse entry type listed but not GNU header"
  | .sparseMapMissing => "failed to read extension"
  | .sparseUnaligned => "previous block in sparse file was not aligned to 512-byte boundary"
  | .sparseOverlap => "out of order or overlapping sparse blocks"
  | .sparseTooLarge => "more bytes listed in sparse file than u64 can hold"
  | .sparseTooMuchData => "sparse file consumed more data than the header listed"
  | .sparseSizeMismatch => "mismatch in sparse file chunks and size in header"
  | .sparseDataMismatch => "mismatch in sparse file chunks and entry size in header"

/-- The value of unsigned digits in base `base`, after an optional `+`; none for no digits,
a wrong digit, or a value of 2^64 or more. -/
def parseUnsigned (base : Nat) (text : String) : Option Nat :=
  let digits := match text.toList with
    | '+' :: rest => rest
    | cs => cs
  if digits.isEmpty then none
  else
    let step (acc : Option Nat) (c : Char) : Option Nat :=
      acc.bind fun n =>
        let d := if c.isDigit then c.toNat - 48
          else if 'a' ≤ c && c ≤ 'z' then c.toNat - 87
          else if 'A' ≤ c && c ≤ 'Z' then c.toNat - 55
          else base
        if d < base && n * base + d < Nat.pow 2 64 then some (n * base + d) else none
    digits.foldl step (some 0)

/-- An octal field's value: the text before the first NUL, trimmed.  `context` names the
field in a failure (`cksum for a.txt`). -/
def octal (context : String) (bytes : List UInt8) : Except ReadError Nat :=
  let text := truncate bytes
  match Utf8.strict? text with
  | none => .error (.notText (Utf8.lossy text) context)
  | some s =>
    match parseUnsigned 8 (Text.trim s) with
    | some n => .ok n
    | none => .error (.notNumber s context)

/-- A size-like field's value: big-endian binary in its last eight bytes when its first
byte has the high bit set, octal otherwise. -/
def numeric (context : String) (bytes : List UInt8) : Except ReadError Nat :=
  match bytes.head? with
  | some b =>
    if b &&& 0x80 != 0 then .ok ((bytes.drop (bytes.length - 8)).foldl (fun n c => n * 256 + c.toNat) 0)
    else octal context bytes
  | none => octal context bytes

/-- How a failure names a field of a header: the field and the header's path. -/
def fieldOf (fieldName : String) (block : List UInt8) : String :=
  let path := Utf8.lossy (headerPath block)
  s!"{fieldName} for {path}"

/-- How a failure names a field of the GNU part of a header: the field and the header's
owners, `group:user`. -/
def gnuFieldOf (fieldName : String) (block : List UInt8) : String :=
  let group := Utf8.lossy (truncate (slice block 297 32))
  let user := Utf8.lossy (truncate (slice block 265 32))
  s!"{fieldName} for {group}:{user}"

/-- The records of an extension member: `LEN key=value` lines up to the first empty one,
where `LEN` counts the whole line with its newline; none for a malformed line. -/
def records (data : List UInt8) : List (Option (List UInt8 × List UInt8)) :=
  let lines := (data.splitOn 10).takeWhile (!·.isEmpty)
  lines.map fun line =>
    match line.idxOf? 32 with
    | none => none
    | some i =>
      let reported := (Utf8.strict? (line.take i)).bind (parseUnsigned 10)
      if reported != some (line.length + 1) then none
      else
        let kv := line.drop (i + 1)
        (kv.idxOf? 61).map fun j => (kv.take j, kv.drop (j + 1))

/-- The `path` record of an extension member. -/
def extensionPath (data : List UInt8) : Option (List UInt8) :=
  ((records data).filterMap id |>.find? (·.1 == Utf8.ascii "path")).map (·.2)

/-- The first `size` record of an extension member, read up to the first malformed record;
none as well when its value is no number. -/
def extensionSize : List (Option (List UInt8 × List UInt8)) → Option Nat
  | [] => none
  | none :: _ => none
  | some (k, v) :: rest =>
    if k == Utf8.ascii "size" then (Utf8.strict? v).bind (parseUnsigned 10)
    else extensionSize rest

/-- Whether an extension's `size` record gives the size of a header of this type: it
describes the member itself, so not the long-path members (`L`, `K`) and global extension
headers (`g`, `x`) read on the way to it, whatever their magic. -/
def takesExtensionSize (kind : UInt8) : Bool := !([76, 75, 103, 120].contains kind)

/-- One header as read at `next`: its size (for a member, an extension's `size` record
replaces the header's), where its data starts, and where the member after it starts. -/
structure Block where
  header : List UInt8
  size : Nat
  start : Nat
  next : Nat

/-- Read the header at `next` (the data before it having been read up to `pos`): none at the
end of the bytes or at a zero header. -/
def readBlock (bytes : List UInt8) (pos next : Nat) (extension : Option (List UInt8)) :
    Except ReadError (Option Block) := do
  if next > pos && next > bytes.length then throw .skipPastEnd
  let rest := bytes.drop next
  if rest.isEmpty then return none
  if rest.length < blockSize then throw .shortBlock
  let block := rest.take blockSize
  if block.all (· == 0) then return none
  let sum ← octal (fieldOf "cksum" block) (slice block 148 8)
  if checksum block != sum % Nat.pow 2 32 then throw .checksumMismatch
  let size ← numeric (fieldOf "size" block) (slice block 124 12)
  let kind := (block.drop 156).head?.getD 0
  let size := if takesExtensionSize kind then ((extension.map records).bind extensionSize).getD size
    else size
  let start := next + blockSize
  if size + (blockSize - 1) ≥ Nat.pow 2 64 then throw .sizeOverflow
  let following := start + (size + (blockSize - 1)) / blockSize * blockSize
  if following ≥ Nat.pow 2 64 then throw .sizeOverflow
  return some ⟨block, size, start, following⟩

/-! ### Sparse members

A GNU sparse member stores only the chunks of a file that hold data.  Its header carries a
map of up to four chunks (an offset in the file and a length, twelve bytes each, from byte
386), a flag at byte 482 saying that blocks of 21 more chunks follow the header (each with
its own flag at byte 504), and the file's real size at byte 483 (octal or binary, like the
size).  The stored data, after the map blocks, is the chunks' bytes one after the other; the
file is rebuilt by putting zeros in the holes before each chunk.  A chunk whose offset or
length field starts with NUL is no chunk.

The chunks must come in order without overlapping, the data taken before each chunk that
holds any must fill whole blocks, the chunks must end at the real size, and their data must
be exactly the header's size. -/

/-- The chunks of a sparse map: `count` entries of offset and length fields. -/
def sparseMap (area : List UInt8) (count : Nat) : List (List UInt8 × List UInt8) :=
  (List.range count).map fun k => (slice area (24 * k) 12, slice area (24 * k + 12) 12)

/-- A sparse member rebuilt so far: where the file reached, how much of the header's size
is left, the file's bytes, and how much stored data was taken. -/
structure Sparse where
  reached : Nat
  remaining : Nat
  contents : List UInt8
  taken : Nat

/-- Add one chunk of the map, its data taken from `stored`. -/
def Sparse.add (stored : List UInt8) (s : Sparse) (chunk : List UInt8 × List UInt8) :
    Except ReadError Sparse := do
  let (offsetField, lengthField) := chunk
  if offsetField.head? == some 0 || lengthField.head? == some 0 then return s
  let offset ← numeric "offset from sparse header" offsetField
  let length ← numeric "length from sparse header" lengthField
  if length != 0 && s.taken % blockSize != 0 then throw .sparseUnaligned
  if offset < s.reached then throw .sparseOverlap
  if offset + length ≥ Nat.pow 2 64 then throw .sparseTooLarge
  if length > s.remaining then throw .sparseTooMuchData
  let hole := List.replicate (offset - s.reached) 0
  let data := (stored.drop s.taken).take length
  return ⟨offset + length, s.remaining - length, s.contents ++ hole ++ data, s.taken + length⟩

/-- The map blocks after a sparse header from `offset` on, while the last one read says another
follows (at most `fuel` of them), and where the stored data starts.  Each block's chunks are
checked against `s`, the member as far as the map before them describes it, before the next
block is read. -/
def sparseMapBlocks (bytes : List UInt8) : Nat → Nat → Sparse →
    Except ReadError (List (List UInt8) × Nat)
  | 0, offset, _ => .ok ([], offset)
  | fuel + 1, offset, s => do
    let rest := bytes.drop offset
    if rest.isEmpty then throw .sparseMapMissing
    if rest.length < blockSize then throw .shortBlock
    let block := rest.take blockSize
    let s ← (sparseMap block 21).foldlM (Sparse.add []) s
    if slice block 504 1 == [1] then
      let (more, dataAt) ← sparseMapBlocks bytes fuel (offset + blockSize) s
      return (block :: more, dataAt)
    else return ([block], offset + blockSize)

/-- Rebuild a sparse member read as `b`: its contents, how far its stored data was read,
and where the member after it starts.  The map in the header is checked before the blocks
after it are read. -/
def readSparse (bytes : List UInt8) (b : Block) : Except ReadError (List UInt8 × Nat × Nat) := do
  unless isGnu b.header do throw .sparseNotGnu
  let start : Sparse := ⟨0, b.size, [], 0⟩
  let inHeader := sparseMap (slice b.header 386 96) 4
  let checked ← inHeader.foldlM (Sparse.add []) start
  let (extra, dataAt) ← if slice b.header 482 1 == [1] then
      sparseMapBlocks bytes (bytes.length / blockSize + 1) b.start checked
    else .ok ([], b.start)
  let stored := bytes.drop dataAt
  let s ← (inHeader ++ extra.flatMap (sparseMap · 21)).foldlM (Sparse.add stored) start
  let realSize ← numeric (gnuFieldOf "real_size" b.header) (slice b.header 483 12)
  if s.reached != realSize then throw .sparseSizeMismatch
  if s.remaining > 0 then throw .sparseDataMismatch
  let readTo := dataAt + (stored.take s.taken).length
  return (s.contents, readTo, b.next + (dataAt - b.start))

/-- A member as read. -/
structure Member where
  path : List UInt8
  /-- The mode field's value, when it is octal text. -/
  mode : Option Nat
  contents : List UInt8
  deriving DecidableEq, Repr

/-- Extension members seen before the member they describe. -/
structure Pending where
  longName : Option (List UInt8)
  longLink : Option (List UInt8)
  extension : Option (List UInt8)
  /-- Headers read for this member. -/
  headers : Nat

/-- Nothing pending. -/
def Pending.empty : Pending := ⟨none, none, none, 0⟩

/-- The path of a member: its long path (without the trailing NUL), else its extension's
`path`, else its header's. -/
def memberPath (p : Pending) (block : List UInt8) : List UInt8 :=
  match p.longName with
  | some name => if name.getLast? == some 0 then name.dropLast else name
  | Option.none => ((p.extension.bind extensionPath)).getD (headerPath block)

/-- Read members from `next` on, at most `fuel` headers. -/
def readFrom (bytes : List UInt8) : Nat → Nat → Nat → Pending → List Member → List Member × Option ReadError
  | 0, _, _, _, acc => (acc.reverse, Option.none)
  | fuel + 1, pos, next, p, acc =>
    let p := { p with headers := p.headers + 1 }
    match readBlock bytes pos next p.extension with
    | .error e => (acc.reverse, some e)
    | .ok Option.none =>
      (acc.reverse, if p.headers > 1 then some .danglingExtension else Option.none)
    | .ok (some b) =>
      let known := isGnu b.header || isUstar b.header
      let kind := (b.header.drop 156).head?.getD 0
      let data := (bytes.drop b.start).take b.size
      let pos := b.start + data.length
      if known && kind == 76 then
        if p.longName.isSome then (acc.reverse, some .twoLongNames)
        else readFrom bytes fuel pos b.next { p with longName := some data } acc
      else if known && kind == 75 then
        if p.longLink.isSome then (acc.reverse, some .twoLongNames)
        else readFrom bytes fuel pos b.next { p with longLink := some data } acc
      else if known && kind == 120 then
        if p.extension.isSome then (acc.reverse, some .twoExtensions)
        else readFrom bytes fuel pos b.next { p with extension := some data } acc
      else
        let mode := (octal (fieldOf "mode" b.header) (slice b.header 100 8)).toOption
        let path := memberPath p b.header
        if kind == 83 then
          match readSparse bytes b with
          | .error e => (acc.reverse, some e)
          | .ok (contents, pos, next) =>
            readFrom bytes fuel pos next Pending.empty (⟨path, mode, contents⟩ :: acc)
        else readFrom bytes fuel pos b.next Pending.empty (⟨path, mode, data⟩ :: acc)

/-- The members of an archive in order, and the failure that stopped the reading, if any. -/
def read (bytes : List UInt8) : List Member × Option ReadError :=
  readFrom bytes (bytes.length / blockSize + 2) 0 0 Pending.empty []

end Tar

end ContainerCpi
