/-!
# Text as UTF-8 bytes

File contents and archive member names are bytes.  `Utf8.encode` gives the bytes of a
string; `Utf8.decode` reads bytes back one step at a time, where a step is either a whole
well-formed sequence or one *maximal ill-formed subsequence*: the longest prefix of a
well-formed sequence that cannot be completed, or a single byte that starts none.

* `Utf8.lossy` puts U+FFFD in place of every ill-formed subsequence;
* `Utf8.strict?` gives the text only when there is none;
* `Utf8.validPrefix` counts the bytes before the first one;
* `Utf8.marked` puts an `x` in place of each of their bytes and says where they were.

The ranges of each byte after a lead byte are those of the Unicode standard's table of
well-formed sequences, so surrogates and values above U+10FFFF are ill-formed.
-/

namespace ContainerCpi

namespace Utf8

/-! ## Algorithm -/

/-- The bytes of a string. -/
def encode (s : String) : List UInt8 := s.toUTF8.toList

/-- The bytes of ASCII text, one per character. -/
def ascii (s : String) : List UInt8 := s.toList.map fun c => c.toNat.toUInt8

/-- How many bytes the sequence led by `b` has; 0 when `b` leads none. -/
def width (b : UInt8) : Nat :=
  if b < 0x80 then 1
  else if b < 0xC2 then 0
  else if b < 0xE0 then 2
  else if b < 0xF0 then 3
  else if b < 0xF5 then 4
  else 0

/-- Whether `c` may stand at continuation position `i` (0 for the first) after lead `lead`:
the first continuation of some leads has a narrower range, excluding overlong forms,
surrogates and values beyond U+10FFFF. -/
def fits (lead : UInt8) (i : Nat) (c : UInt8) : Bool :=
  let (lo, hi) : UInt8 × UInt8 :=
    if i != 0 then (0x80, 0xBF)
    else if lead == 0xE0 then (0xA0, 0xBF)
    else if lead == 0xED then (0x80, 0x9F)
    else if lead == 0xF0 then (0x90, 0xBF)
    else if lead == 0xF4 then (0x80, 0x8F)
    else (0x80, 0xBF)
  lo ≤ c && c ≤ hi

/-- How many of the next bytes continue the sequence led by `lead`, at most `need`,
counting from continuation position `i`. -/
def continued (lead : UInt8) (i : Nat) : Nat → List UInt8 → Nat
  | 0, _ => 0
  | _, [] => 0
  | need + 1, c :: cs => if fits lead i c then continued lead (i + 1) need cs + 1 else 0

/-- The scalar value of a complete sequence: the lead's payload bits, then six bits from
each continuation. -/
def scalar (lead : UInt8) (conts : List UInt8) : Char :=
  let init := lead.toNat % Nat.pow 2 (6 - conts.length)
  Char.ofNat (conts.foldl (fun acc c => acc * 64 + c.toNat % 64) init)

/-- One step at lead byte `b` followed by `rest`: the character, or none for an ill-formed
subsequence, and how many bytes of `rest` the step takes besides `b`. -/
def step (b : UInt8) (rest : List UInt8) : Option Char × Nat :=
  let w := width b
  if w == 1 then (some (Char.ofNat b.toNat), 0)
  else if w == 0 then (none, 0)
  else
    let k := continued b 0 (w - 1) rest
    if k == w - 1 then (some (scalar b (rest.take k)), k) else (none, k)

/-- Decode bytes: a character per well-formed sequence, none per maximal ill-formed
subsequence. -/
def decode : List UInt8 → List (Option Char)
  | [] => []
  | b :: rest => (step b rest).1 :: decode (rest.drop (step b rest).2)
termination_by bs => bs.length
decreasing_by simp only [List.length_drop, List.length_cons]; omega

/-- The text with U+FFFD for every ill-formed subsequence. -/
def lossy (bytes : List UInt8) : String :=
  String.ofList ((decode bytes).map fun c => c.getD '�')

/-- The text, when the bytes are well-formed UTF-8. -/
def strict? (bytes : List UInt8) : Option String :=
  ((decode bytes).mapM id).map String.ofList

/-- How many bytes come before the first ill-formed subsequence. -/
def validPrefix : List UInt8 → Nat
  | [] => 0
  | b :: rest =>
    match (step b rest).1 with
    | none => 0
    | some _ => (step b rest).2 + 1 + validPrefix (rest.drop (step b rest).2)
termination_by bs => bs.length
decreasing_by simp only [List.length_drop, List.length_cons]; omega

/-- Bytes as a reader of bytes meets them, put into text: a character per well-formed
sequence and an `x` per byte of an ill-formed subsequence, so that every byte keeps its
offset; with the offsets, counted from `start`, of the bytes read as `x`. -/
def marked (start : Nat) : List UInt8 → List Char × List Nat
  | [] => ([], [])
  | b :: rest =>
    let (c?, k) := step b rest
    let (cs, bad) := marked (start + 1 + k) (rest.drop k)
    match c? with
    | some c => (c :: cs, bad)
    | none => (List.replicate (k + 1) 'x' ++ cs, List.range' start (k + 1) ++ bad)
termination_by bs => bs.length
decreasing_by simp only [List.length_drop, List.length_cons]; omega

end Utf8

namespace Hex

/-- The lower-case hexadecimal digit of `n < 16`. -/
def digit (n : Nat) : Char :=
  if n < 10 then Char.ofNat (48 + n) else Char.ofNat (87 + n)

/-- Two lower-case hexadecimal digits per byte. -/
def ofBytes (bytes : List UInt8) : String :=
  String.ofList (bytes.flatMap fun b => [digit (b.toNat / 16), digit (b.toNat % 16)])

end Hex

end ContainerCpi
