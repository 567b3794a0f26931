import ContainerCpi.Json.Basic
import ContainerCpi.Decimal.Digits

/-!
# Reading JSON text

The reader turns text into a `Doc`: the value tree together with the byte offsets that
error reports need, and, where the text is malformed, the point at which reading
stopped (`Doc.broken`, or a container whose `close` is an error).  Reading never looks
past the first syntax error, so a typed decoder that walks a `Doc` in text order meets the
first problem of the text exactly where a streaming reader would: a wrong type early in
the text is reported before a syntax error later in it.

Offsets count UTF-8 bytes.  A position is reported as a line (counting from one) and a
column, the number of bytes between the start of that line and the offset
(`Position.ofIndex`).  A syntax error either points just after the last character read,
or one byte into the next when the reader only peeked at it (`Cursor.here`,
`Cursor.peekIndex`); four hexadecimal digits of an escape are four bytes.

Numbers read as an unsigned integer when they are written without fraction or exponent and
fit in 64 bits, as a negative integer when they fit in 64 signed bits, and otherwise as a
double computed from at most 19 significant digits scaled by one power of ten
(`Reader.scale`); `-0` reads as the double `-0.0`.
-/

namespace ContainerCpi

/-- Why reading stopped. -/
inductive SyntaxCode where
  | eofValue
  | eofList
  | eofObject
  | eofString
  | expectedColon
  | expectedListCommaOrEnd
  | expectedObjectCommaOrEnd
  | expectedIdent
  | expectedValue
  | invalidEscape
  | invalidNumber
  | numberOutOfRange
  | controlCharacter
  | keyMustBeString
  | loneLeadingSurrogate
  | unexpectedEndOfHexEscape
  | trailingComma
  | trailingCharacters
  | recursionLimit
  | invalidUnicodeCodePoint
  deriving DecidableEq, Repr

/-- The words of each syntax error. -/
def SyntaxCode.message : SyntaxCode → String
  | .eofValue => "EOF while parsing a value"
  | .eofList => "EOF while parsing a list"
  | .eofObject => "EOF while parsing an object"
  | .eofString => "EOF while parsing a string"
  | .expectedColon => "expected `:`"
  | .expectedListCommaOrEnd => "expected `,` or `]`"
  | .expectedObjectCommaOrEnd => "expected `,` or `\x7d`"
  | .expectedIdent => "expected ident"
  | .expectedValue => "expected value"
  | .invalidEscape => "invalid escape"
  | .invalidNumber => "invalid number"
  | .numberOutOfRange => "number out of range"
  | .controlCharacter => "control character (\\u0000-\\u001F) found while parsing a string"
  | .keyMustBeString => "key must be a string"
  | .loneLeadingSurrogate => "lone leading surrogate in hex escape"
  | .unexpectedEndOfHexEscape => "unexpected end of hex escape"
  | .trailingComma => "trailing comma"
  | .trailingCharacters => "trailing characters"
  | .recursionLimit => "recursion limit exceeded"
  | .invalidUnicodeCodePoint => "invalid unicode code point"

/-- Whether the error is the text ending before its value does. -/
def SyntaxCode.isEndOfText : SyntaxCode → Bool
  | .eofValue | .eofList | .eofObject | .eofString => true
  | _ => false

/-- A syntax error and the byte offset it is reported at. -/
structure SyntaxError where
  code : SyntaxCode
  index : Nat

/-- Where reading stops, seen two ways.  A value is *parsed* when its content is wanted and
*skipped* when it is only passed over (the value of a field nobody asked for).  Skipping
checks the form of the text but not what it means: any number, any four hexadecimal digits
after `\u` and any depth of nesting pass, and a few flaws of form get other names
(`[1,]` lacks a value rather than having a trailing comma).  `parse` is the error parsing
meets; `skip` the error skipping meets, or `none` when skipping reads on past this point. -/
structure Fault where
  parse : SyntaxError
  skip : Option SyntaxError

/-- A flaw of form that both ways of reading meet alike. -/
def Fault.both (e : SyntaxError) : Fault := ⟨e, some e⟩

/-- Where an entry of an object read from text lies: `keyEnd` is the offset just after its
key's closing quote, `colon` the offset of the colon after the blanks that follow the key,
and `resume` the offset where the text goes on after the entry's value, past the blanks
after it (at the comma or closing brace that should follow). -/
structure EntrySpan where
  keyEnd : Nat
  colon : Nat
  resume : Nat
  deriving Inhabited

/-- A value as read, with the offsets that error reports use.  `span` holds the offsets of
an atom's first character and of the character after it, `start` the offset of an opening
bracket; `close` is the offset just after the closing bracket, or the fault that ended the
container.  Values built from a `Json` rather than read from text carry no offsets.

Reading goes on as far as skipping would: after a `broken` item that only parsing refuses,
the items after it are read too, so that a container holds what skipping it passes over;
parsing stops at the first fault in text order and never looks at them. -/
inductive Doc where
  | atom (v : Json) (span : Option (Nat × Nat))
  | array (start : Option Nat) (items : List Doc) (close : Except Fault (Option Nat))
  | object (start : Option Nat) (fields : List (String × Option EntrySpan × Doc))
      (close : Except Fault (Option Nat))
  | broken (e : Fault)
  deriving Inhabited

namespace Doc

/-- A value without offsets. -/
def ofJson : Json → Doc
  | .array xs => .array none (items xs) (.ok none)
  | .object fs => .object none (fields fs) (.ok none)
  | v => .atom v none
where
  items : List Json → List Doc
    | [] => []
    | x :: xs => ofJson x :: items xs
  fields : List (String × Json) → List (String × Option EntrySpan × Doc)
    | [] => []
    | (k, v) :: fs => (k, none, ofJson v) :: fields fs

/-- The value read, or the first error parsing it meets.  An object read from text is a
map: a repeated key keeps its last value. -/
def toJson : Doc → Except SyntaxError Json
  | .atom v _ => .ok v
  | .broken e => .error e.parse
  | .array _ items close => do
    let xs ← goItems items
    let _ ← close.mapError (·.parse)
    return .array xs
  | .object _ fields close => do
    let fs ← goFields fields
    let _ ← close.mapError (·.parse)
    return .object (Json.Fields.ofList fs)
where
  goItems : List Doc → Except SyntaxError (List Json)
    | [] => .ok []
    | d :: ds => do
      let x ← toJson d
      let xs ← goItems ds
      return x :: xs
  goFields : List (String × Option EntrySpan × Doc) → Except SyntaxError (List (String × Json))
    | [] => .ok []
    | (k, _, d) :: ds => do
      let x ← toJson d
      let xs ← goFields ds
      return (k, x) :: xs

/-- The first error parsing the value meets, if any. -/
def firstError (d : Doc) : Option SyntaxError :=
  match d.toJson with
  | .ok _ => none
  | .error e => some e

/-- The error skipping a container's end meets, if any. -/
def closeSkipError : Except Fault (Option Nat) → Option SyntaxError
  | .ok _ => none
  | .error f => f.skip

/-- The first error skipping the value meets, if any: the first in text order among its
parts and its end. -/
def skipError : Doc → Option SyntaxError
  | .atom _ _ => none
  | .broken e => e.skip
  | .array _ items close => (goItems items).or (closeSkipError close)
  | .object _ fields close => (goFields fields).or (closeSkipError close)
where
  goItems : List Doc → Option SyntaxError
    | [] => none
    | d :: ds => (skipError d).or (goItems ds)
  goFields : List (String × Option EntrySpan × Doc) → Option SyntaxError
    | [] => none
    | (_, _, d) :: ds => (skipError d).or (goFields ds)

/-- The first error skipping fields and the end of their object meets, if any. -/
def fieldsSkipError (fields : List (String × Option EntrySpan × Doc))
    (close : Except Fault (Option Nat)) : Option SyntaxError :=
  (skipError.goFields fields).or (closeSkipError close)

/-- The document as read from bytes, when the strings whose closing quotes end just before
the offsets `ends` hold ill-formed UTF-8: parsing refuses such a string there, while
skipping passes over it, and a key so refused ends its object for parsing, as any key that
only parsing refuses does. -/
def refuse (ends : List Nat) : Doc → Doc
  | .atom (.string s) (some (a, b)) =>
    if ends.contains b then .broken ⟨⟨.invalidUnicodeCodePoint, b⟩, none⟩
    else .atom (.string s) (some (a, b))
  | .atom v span => .atom v span
  | .array start items close => .array start (goItems items) close
  | .object start fields close =>
    let (kept, close') := goFields fields close
    .object start kept close'
  | .broken e => .broken e
where
  goItems : List Doc → List Doc
    | [] => []
    | d :: ds => refuse ends d :: goItems ds
  goFields : List (String × Option EntrySpan × Doc) → Except Fault (Option Nat) →
      List (String × Option EntrySpan × Doc) × Except Fault (Option Nat)
    | [], close => ([], close)
    | (k, span, d) :: fs, close =>
      let keep (x : List (String × Option EntrySpan × Doc) × Except Fault (Option Nat)) :=
        ((k, span, refuse ends d) :: x.1, x.2)
      match span with
      | some sp =>
        if ends.contains sp.keyEnd then
          ([], .error ⟨⟨.invalidUnicodeCodePoint, sp.keyEnd⟩,
            fieldsSkipError ((k, span, d) :: fs) close⟩)
        else keep (goFields fs close)
      | none => keep (goFields fs close)

end Doc

/-- Line (from one) and column (UTF-8 bytes since the line began) of an offset. -/
structure Position where
  line : Nat
  column : Nat

/-- The position of byte offset `i` in `text`: lines are counted by the line feeds before
the offset, and the column is the number of bytes between the last of them and the offset
(which may fall inside a character). -/
def Position.ofIndex (text : List Char) (i : Nat) : Position :=
  let rec go : List Char → Nat → Nat → Nat → Position
    | [], _, line, lineStart => ⟨line, i - lineStart⟩
    | c :: rest, off, line, lineStart =>
      if off ≥ i then ⟨line, i - lineStart⟩
      else if c == '\n' then go rest (off + 1) (line + 1) (off + 1)
      else go rest (off + c.utf8Size) line lineStart
  go text 0 1 0

/-- The unread text and the number of UTF-8 bytes read so far. -/
structure Cursor where
  rest : List Char
  pos : Nat

namespace Cursor

/-- Offset just after the last character read. -/
def here (c : Cursor) : Nat := c.pos

/-- Offset one byte into the next character, or the end of the text. -/
def peekIndex (c : Cursor) : Nat := if c.rest.isEmpty then c.pos else c.pos + 1

/-- Read one character. -/
def bump (c : Cursor) : Cursor :=
  match c.rest with
  | [] => c
  | ch :: r => ⟨r, c.pos + ch.utf8Size⟩

/-- Skip blanks (space, tab, line feed, carriage return) of `rest`, read from offset `p`. -/
def skipBlankFrom : List Char → Nat → Cursor
  | [], p => ⟨[], p⟩
  | c :: r, p =>
    if c = ' ' ∨ c = '\t' ∨ c = '\n' ∨ c = '\r' then skipBlankFrom r (p + 1) else ⟨c :: r, p⟩

/-- Skip blanks (space, tab, line feed, carriage return). -/
def skipBlank (c : Cursor) : Cursor := skipBlankFrom c.rest c.pos

/-- Skip the decimal digits of `rest`, read from offset `p`. -/
def skipDigitsFrom : List Char → Nat → Cursor
  | [], p => ⟨[], p⟩
  | c :: r, p => if c.isDigit then skipDigitsFrom r (p + 1) else ⟨c :: r, p⟩

/-- Skip decimal digits. -/
def skipDigits (c : Cursor) : Cursor := skipDigitsFrom c.rest c.pos

end Cursor

namespace Reader

/-- A syntax error reported at the last character read. -/
def errHere (c : Cursor) (code : SyntaxCode) : SyntaxError := ⟨code, c.here⟩

/-- A syntax error reported one byte into the next character. -/
def errPeek (c : Cursor) (code : SyntaxCode) : SyntaxError := ⟨code, c.peekIndex⟩

/-- Powers of ten as doubles, `1e0` to `1e308`. -/
def powerOfTen (k : Nat) : Float := Float.ofScientific 1 false k

/-- The double `significand · 10^exponent`, computed as a rounded conversion of the
significand followed by one multiplication or division by a power of ten (exponents below
`-308` divide by `1e308` first); a product that overflows is out of range.  The significand
has at most 64 bits and the power of ten at most `10^308`, so both convert to their nearest
doubles, and the product is infinite exactly when `Decimal.productOverflows` says so. -/
def scale (c : Cursor) (positive : Bool) (significand : Nat) (exponent : Int) :
    Except SyntaxError Float :=
  let f := Float.ofNat significand
  let sign (x : Float) : Float := if positive then x else -x
  if exponent ≥ 0 then
    if exponent ≤ 308 then
      let g := f * powerOfTen exponent.toNat
      if Decimal.productOverflows significand (Decimal.pow10 exponent.toNat) then
        .error (errHere c .numberOutOfRange)
      else .ok (sign g)
    else if f == 0 then .ok (sign f)
    else .error (errHere c .numberOutOfRange)
  else
    let e := -exponent
    if e ≤ 308 then .ok (sign (f / powerOfTen e.toNat))
    else if f == 0 then .ok (sign f)
    else if e ≤ 616 then .ok (sign (f / 1e308 / powerOfTen (e - 308).toNat))
    else .ok (sign (f / 1e308 / 1e308 / 1e308))

/-- The largest 64-bit unsigned integer. -/
def maxU64 : Nat := Nat.pow 2 64 - 1

/-- Whether appending digit `d` to `s` would pass `limit`. -/
def overflows (s d limit : Nat) : Bool := s ≥ limit / 10 && (s > limit / 10 || d > limit % 10)

/-- The sign of an exponent, read if it is written: whether the exponent is positive, and
the cursor after the sign. -/
def exponentSign (c : Cursor) : Bool × Cursor :=
  match c.rest with
  | '+' :: _ => (true, c.bump)
  | '-' :: _ => (false, c.bump)
  | _ => (true, c)

/-- Read an exponent after `e`/`E`; the cursor is on the letter. -/
def readExponent (c : Cursor) (positive : Bool) (significand : Nat) (start : Int) :
    Except SyntaxError Float × Cursor :=
  let (positiveExp, c) := exponentSign c.bump
  match c.rest with
  | [] => (.error (errHere c .eofValue), c)
  | d :: _ =>
    let c := c.bump
    if !d.isDigit then (.error (errHere c .invalidNumber), c)
    else
      let digitsEnd := c.skipDigits
      let text := d :: c.rest.take (digitsEnd.pos - c.pos)
      let value : Nat := text.foldl (fun acc ch => acc * 10 + (ch.toNat - 48)) 0
      if value > 2147483647 then
        -- an exponent too large for 32 bits
        if significand != 0 && positiveExp then
          -- the digit that overflowed has been read; the rest are not
          let overflowAt := (text.zipIdx.find? (fun (_, i) =>
            (text.take (i + 1)).foldl (fun acc ch => acc * 10 + (ch.toNat - 48)) 0 > 2147483647)).map (·.2)
          let readTo := match overflowAt with
            | some i => c.pos + i
            | none => digitsEnd.pos
          (.error ⟨.numberOutOfRange, readTo⟩, ⟨c.rest.drop (readTo - c.pos), readTo⟩)
        else (.ok (if positive then 0.0 else -0.0), digitsEnd)
      else
        let e := if positiveExp then start + (value : Int) else start - (value : Int)
        (scale digitsEnd positive significand e, digitsEnd)

/-- Read the digits after a decimal point; the cursor is on the point. -/
def readFraction (c : Cursor) (positive : Bool) (significand : Nat) (start : Int) :
    Except SyntaxError Float × Cursor :=
  let c := c.bump
  let rec go : List Char → Nat → Nat → Int → Bool → Nat × Nat × Int × Bool
    | d :: r, n, s, e, saturated =>
      if d.isDigit then
        let dv := d.toNat - 48
        if saturated || overflows s dv maxU64 then go r (n + 1) s e true
        else go r (n + 1) (s * 10 + dv) (e - 1) false
      else (n, s, e, saturated)
    | [], n, s, e, saturated => (n, s, e, saturated)
  let (count, s, e, _) := go c.rest 0 significand start false
  let c' : Cursor := ⟨c.rest.drop count, c.pos + count⟩
  if count = 0 then
    match c.rest with
    | [] => (.error (errPeek c .eofValue), c)
    | _ => (.error (errPeek c .invalidNumber), c)
  else
    match c'.rest with
    | ch :: _ => if ch = 'e' ∨ ch = 'E' then readExponent c' positive s e else (scale c' positive s e, c')
    | [] => (scale c' positive s e, c')

/-- The rest of a number after its integer digits: fraction, exponent or nothing. -/
def readAfterInteger (c : Cursor) (positive : Bool) (significand : Nat) :
    Except SyntaxError Number × Cursor :=
  match c.rest with
  | '.' :: _ => let (r, c) := readFraction c positive significand 0; (r.map .double, c)
  | ch :: _ =>
    if ch = 'e' ∨ ch = 'E' then
      let (r, c) := readExponent c positive significand 0
      (r.map .double, c)
    else (.ok (integer positive significand), c)
  | [] => (.ok (integer positive significand), c)
where
  integer (positive : Bool) (s : Nat) : Number :=
    if positive then .unsigned s
    else if s = 0 then .double (-0.0)
    else if s ≤ Nat.pow 2 63 then .negative (-(s : Int))
    else .double (-(Float.ofNat s))

/-- Read a number whose sign has been read; the cursor is on the first digit. -/
def readNumber (c : Cursor) (positive : Bool) : Except SyntaxError Number × Cursor :=
  match c.rest with
  | [] => (.error (errHere c .eofValue), c)
  | d :: _ =>
    let c := c.bump
    if d = '0' then
      match c.rest with
      | e :: _ => if e.isDigit then (.error (errPeek c .invalidNumber), c) else readAfterInteger c positive 0
      | [] => readAfterInteger c positive 0
    else if d.isDigit then
      -- integer digits while they fit in 64 bits
      let rec go : List Char → Nat → Nat → Nat × Nat × Bool
        | ch :: r, n, s =>
          if ch.isDigit then
            let dv := ch.toNat - 48
            if overflows s dv maxU64 then (n, s, true) else go r (n + 1) (s * 10 + dv)
          else (n, s, false)
        | [], n, s => (n, s, false)
      let (count, s, long) := go c.rest 0 (d.toNat - 48)
      let c : Cursor := ⟨c.rest.drop count, c.pos + count⟩
      if long then
        -- more integer digits than fit: each one raises the power of ten
        let c' := c.skipDigits
        let extra : Int := c'.pos - c.pos
        match c'.rest with
        | '.' :: _ => let (r, c) := readFraction c' positive s extra; (r.map .double, c)
        | ch :: _ =>
          if ch = 'e' ∨ ch = 'E' then
            let (r, c) := readExponent c' positive s extra
            (r.map .double, c)
          else ((scale c' positive s extra).map .double, c')
        | [] => ((scale c' positive s extra).map .double, c')
      else readAfterInteger c positive s
    else (.error (errHere c .invalidNumber), c)

/-- Value of a hexadecimal digit. -/
def hexValue (c : Char) : Option Nat :=
  if c.isDigit then some (c.toNat - 48)
  else if 'a' ≤ c ∧ c ≤ 'f' then some (c.toNat - 87)
  else if 'A' ≤ c ∧ c ≤ 'F' then some (c.toNat - 55)
  else none

/-- Read four hexadecimal digits. -/
def readHex4 (c : Cursor) : Except SyntaxError Nat × Cursor :=
  let bytes := (c.rest.take 4).foldl (fun n ch => n + ch.utf8Size) 0
  match c.rest with
  | a :: b :: d :: e :: r =>
    let c' : Cursor := ⟨r, c.pos + 4⟩
    match hexValue a, hexValue b, hexValue d, hexValue e with
    | some w, some x, some y, some z => (.ok (((w * 16 + x) * 16 + y) * 16 + z), c')
    | _, _, _, _ => (.error (errHere c' .invalidEscape), c')
  | _ =>
    if bytes ≥ 4 then
      let c' : Cursor := ⟨[], c.pos + 4⟩
      (.error (errHere c' .invalidEscape), c')
    else
      let c' : Cursor := ⟨[], c.pos + bytes⟩
      (.error (errHere c' .eofString), c')

/-- Read the escape after a `\u`: a character of the basic plane, or a surrogate pair. -/
def readUnicodeEscape (c : Cursor) : Except SyntaxError Char × Cursor :=
  match readHex4 c with
  | (.error e, c) => (.error e, c)
  | (.ok n, c) =>
    if 0xDC00 ≤ n ∧ n ≤ 0xDFFF then (.error (errHere c .loneLeadingSurrogate), c)
    else if n < 0xD800 ∨ n > 0xDBFF then (.ok (Char.ofNat n), c)
    else
      match c.rest with
      | [] => (.error (errHere c .eofString), c)
      | '\\' :: _ =>
        let c := c.bump
        match c.rest with
        | [] => (.error (errHere c .eofString), c)
        | 'u' :: _ =>
          match readHex4 c.bump with
          | (.error e, c) => (.error e, c)
          | (.ok n2, c) =>
            if n2 < 0xDC00 ∨ n2 > 0xDFFF then (.error (errHere c .loneLeadingSurrogate), c)
            else (.ok (Char.ofNat (((n - 0xD800) <<< 10 ||| (n2 - 0xDC00)) + 0x10000)), c)
        | _ => let c := c.bump; (.error (errHere c .unexpectedEndOfHexEscape), c)
      | _ => let c := c.bump; (.error (errHere c .unexpectedEndOfHexEscape), c)

/-- Read the body of a string; the opening quote has been read.  `fuel` bounds the number
of characters. -/
def readString : Nat → Cursor → List Char → Except SyntaxError String × Cursor
  | 0, c, _ => (.error (errHere c .eofString), c)
  | fuel + 1, c, acc =>
    match c.rest with
    | [] => (.error (errHere c .eofString), c)
    | ch :: _ =>
      let c' := c.bump
      if ch = '"' then (.ok (String.ofList acc.reverse), c')
      else if ch = '\\' then
        match c'.rest with
        | [] => (.error (errHere c' .eofString), c')
        | e :: _ =>
          let c'' := c'.bump
          let simple (x : Char) := readString fuel c'' (x :: acc)
          match e with
          | '"' => simple '"'
          | '\\' => simple '\\'
          | '/' => simple '/'
          | 'b' => simple (Char.ofNat 8)
          | 'f' => simple (Char.ofNat 12)
          | 'n' => simple '\n'
          | 'r' => simple '\r'
          | 't' => simple '\t'
          | 'u' =>
            match readUnicodeEscape c'' with
            | (.ok x, c3) => readString fuel c3 (x :: acc)
            | (.error err, c3) => (.error err, c3)
          | _ => (.error (errHere c'' .invalidEscape), c'')
      else if ch.toNat < 32 then (.error (errHere c' .controlCharacter), c')
      else readString fuel c' (ch :: acc)

/-- Pass over the body of a string whose opening quote has been read, checking only its
form: an escape is one of the known letters or `u` with four hexadecimal digits of any
value, and a control character is refused (reported before it rather than after it, since
skipping does not take it).  `fuel` bounds the number of characters. -/
def skipString : Nat → Cursor → Option SyntaxError × Cursor
  | 0, c => (some (errHere c .eofString), c)
  | fuel + 1, c =>
    match c.rest with
    | [] => (some (errHere c .eofString), c)
    | ch :: _ =>
      if ch = '"' then (none, c.bump)
      else if ch = '\\' then
        let c' := c.bump
        match c'.rest with
        | [] => (some (errHere c' .eofString), c')
        | e :: _ =>
          let c'' := c'.bump
          if e = 'u' then
            match readHex4 c'' with
            | (.error err, c3) => (some err, c3)
            | (.ok _, c3) => skipString fuel c3
          else if e ∈ ['"', '\\', '/', 'b', 'f', 'n', 'r', 't'] then skipString fuel c''
          else (some (errHere c'' .invalidEscape), c'')
      else if ch.toNat < 32 then (some (errHere c .controlCharacter), c)
      else skipString fuel c.bump

/-- Pass over an exponent; the cursor is on the letter `e` or `E`.  A digit must follow the
optional sign. -/
def skipExponent (c : Cursor) : Option SyntaxError × Cursor :=
  let c := (exponentSign c.bump).2
  match c.rest with
  | [] => (some (errHere c .invalidNumber), c)
  | d :: _ =>
    let c := c.bump
    if d.isDigit then (none, c.skipDigits) else (some (errHere c .invalidNumber), c)

/-- Pass over what follows a number's integer digits: a fraction of at least one digit, an
exponent, both, or nothing. -/
def skipAfterInteger (c : Cursor) : Option SyntaxError × Cursor :=
  match c.rest with
  | '.' :: _ =>
    let c := c.bump
    let c' := c.skipDigits
    if c'.pos = c.pos then (some (errPeek c .invalidNumber), c)
    else
      match c'.rest with
      | ch :: _ => if ch = 'e' ∨ ch = 'E' then skipExponent c' else (none, c')
      | [] => (none, c')
  | ch :: _ => if ch = 'e' ∨ ch = 'E' then skipExponent c else (none, c)
  | [] => (none, c)

/-- Pass over a number whose sign has been read, checking only its form: any count of
digits and any exponent pass.  Every flaw, the end of the text included, is an invalid
number. -/
def skipNumber (c : Cursor) : Option SyntaxError × Cursor :=
  match c.rest with
  | [] => (some (errHere c .invalidNumber), c)
  | d :: _ =>
    let c := c.bump
    if d = '0' then
      match c.rest with
      | e :: _ => if e.isDigit then (some (errPeek c .invalidNumber), c) else skipAfterInteger c
      | [] => skipAfterInteger c
    else if d.isDigit then skipAfterInteger c.skipDigits
    else (some (errHere c .invalidNumber), c)

/-- The offsets just after the closing quotes of the strings of `cs`, read from offset `off`,
that hold one of the offsets `bad`, as a reader finds strings: from a quote to the next
quote that no backslash escapes.  The last argument is `none` outside a string, and inside
one whether the string has met one of the offsets. -/
def illFormedStrings (bad : List Nat) : List Char → Nat → Option Bool → List Nat
  | [], _, _ => []
  | c :: rest, off, none =>
    if c = '"' then illFormedStrings bad rest (off + 1) (some false)
    else illFormedStrings bad rest (off + c.utf8Size) none
  | c :: rest, off, some held =>
    let held := held || bad.contains off
    if c = '"' then (if held then [off + 1] else []) ++ illFormedStrings bad rest (off + 1) none
    else if c = '\\' then
      match rest with
      | [] => []
      | e :: more =>
        illFormedStrings bad more (off + 1 + e.utf8Size) (some (held || bad.contains (off + 1)))
    else illFormedStrings bad rest (off + c.utf8Size) (some held)

/-- Read the letters of `null`, `true` or `false` after the first one. -/
def readIdent : List Char → Cursor → Option SyntaxError × Cursor
  | [], c => (none, c)
  | x :: xs, c =>
    match c.rest with
    | [] => (some (errHere c .eofValue), c)
    | y :: _ =>
      let c := c.bump
      if x = y then readIdent xs c else (some (errHere c .expectedIdent), c)

mutual

/-- Read one value.  `fuel` bounds nesting and the number of items; `depth` is how many
more brackets may open before parsing refuses to go deeper (skipping has no such limit, so
a container too deep is still read to its end). -/
def readValue : Nat → Nat → Cursor → Doc × Cursor
  | 0, _, c => (.broken (Fault.both (errPeek c .eofValue)), c)
  | fuel + 1, depth, c0 =>
    let c := c0.skipBlank
    match c.rest with
    | [] => (.broken (Fault.both (errPeek c .eofValue)), c)
    | ch :: _ =>
      let literal (rest : List Char) (v : Json) : Doc × Cursor :=
        match readIdent rest c.bump with
        | (some e, c) => (.broken (Fault.both e), c)
        | (none, c') => (.atom v (some (c.here, c'.here)), c')
      let number (start : Cursor) (positive : Bool) : Doc × Cursor :=
        match readNumber start positive with
        | (.ok n, c') => (.atom (.number n) (some (c.here, c'.here)), c')
        | (.error e, _) => let (skip, c') := skipNumber start; (.broken ⟨e, skip⟩, c')
      let container (d : Doc) (c' : Cursor) : Doc × Cursor :=
        if depth ≤ 1 then (.broken ⟨errPeek c .recursionLimit, d.skipError⟩, c') else (d, c')
      match ch with
      | 'n' => literal ['u', 'l', 'l'] .null
      | 't' => literal ['r', 'u', 'e'] (.bool true)
      | 'f' => literal ['a', 'l', 's', 'e'] (.bool false)
      | '-' => number c.bump false
      | '"' =>
        match readString (c.rest.length + 1) c.bump [] with
        | (.ok s, c') => (.atom (.string s) (some (c.here, c'.here)), c')
        | (.error e, _) =>
          let (skip, c') := skipString (c.rest.length + 1) c.bump
          (.broken ⟨e, skip⟩, c')
      | '[' =>
        let (items, close, c') := readItems fuel (depth - 1) c.bump true []
        container (.array (some c.here) items close) c'
      | '{' =>
        let (fields, close, c') := readFields fuel (depth - 1) c.bump true []
        container (.object (some c.here) fields close) c'
      | _ =>
        if ch.isDigit then number c true
        else (.broken (Fault.both (errPeek c .expectedValue)), c)

/-- Read the items of an array after its opening bracket.  An item that only parsing
refuses does not end the array. -/
def readItems : Nat → Nat → Cursor → Bool → List Doc →
    List Doc × Except Fault (Option Nat) × Cursor
  | 0, _, c, _, acc => (acc.reverse, .error (Fault.both (errPeek c .eofList)), c)
  | fuel + 1, depth, c0, first, acc =>
    let c := c0.skipBlank
    match c.rest with
    | [] => (acc.reverse, .error (Fault.both (errPeek c .eofList)), c)
    | ']' :: _ => (acc.reverse, .ok (some (c.here + 1)), c.bump)
    | ch :: _ =>
      let item (c : Cursor) :=
        match readValue fuel depth c with
        | (.broken e, c') =>
          if e.skip.isSome then ((.broken e :: acc).reverse, .error e, c')
          else readItems fuel depth c' false (.broken e :: acc)
        | (d, c') => readItems fuel depth c' false (d :: acc)
      if first then item c
      else if ch = ',' then
        let c := c.bump.skipBlank
        match c.rest with
        | [] => (acc.reverse, .error (Fault.both (errPeek c .eofValue)), c)
        | ']' :: _ =>
          (acc.reverse, .error ⟨errPeek c .trailingComma, some (errPeek c .expectedValue)⟩, c)
        | _ => item c
      else (acc.reverse, .error (Fault.both (errPeek c .expectedListCommaOrEnd)), c)

/-- Read the fields of an object after its opening brace.  A value that only parsing
refuses does not end the object; a key that only parsing refuses ends it for parsing,
while the fields after it are still read for skipping. -/
def readFields : Nat → Nat → Cursor → Bool → List (String × Option EntrySpan × Doc) →
    List (String × Option EntrySpan × Doc) × Except Fault (Option Nat) × Cursor
  | 0, _, c, _, acc => (acc.reverse, .error (Fault.both (errPeek c .eofObject)), c)
  | fuel + 1, depth, c0, first, acc =>
    let c := c0.skipBlank
    let afterKey (acc : List (String × Option EntrySpan × Doc)) (key : String) (c' : Cursor) :=
      let afterKey := c'.skipBlank
      let span (resume : Nat) : Option EntrySpan := some ⟨c'.here, afterKey.here, resume⟩
      let refused (e : SyntaxError) :=
        (((key, span afterKey.here, .broken (Fault.both e)) :: acc).reverse,
          .error (Fault.both e), afterKey)
      match afterKey.rest with
      | ':' :: _ =>
        match readValue fuel depth afterKey.bump with
        | (.broken e, c'') =>
          if e.skip.isSome then
            (((key, span c''.skipBlank.here, .broken e) :: acc).reverse, .error e, c'')
          else
            readFields fuel depth c'' false ((key, span c''.skipBlank.here, .broken e) :: acc)
        | (d, c'') =>
          readFields fuel depth c'' false ((key, span c''.skipBlank.here, d) :: acc)
      | [] => refused (errPeek afterKey .eofObject)
      | _ => refused (errPeek afterKey .expectedColon)
    let field (c : Cursor) :=
      match c.rest with
      | '"' :: _ =>
        match readString (c.rest.length + 1) c.bump [] with
        | (.ok key, c') => afterKey acc key c'
        | (.error e, _) =>
          match skipString (c.rest.length + 1) c.bump with
          | (some skip, c') => (acc.reverse, .error ⟨e, some skip⟩, c')
          | (none, c') =>
            let (more, close, c'') := afterKey [] "" c'
            (acc.reverse, .error ⟨e, Doc.fieldsSkipError more close⟩, c'')
      | _ => (acc.reverse, .error (Fault.both (errPeek c .keyMustBeString)), c)
    match c.rest with
    | [] => (acc.reverse, .error (Fault.both (errPeek c .eofObject)), c)
    | '}' :: _ => (acc.reverse, .ok (some (c.here + 1)), c.bump)
    | ',' :: _ =>
      if first then (acc.reverse, .error (Fault.both (errPeek c .keyMustBeString)), c)
      else
        let c := c.bump.skipBlank
        match c.rest with
        | '}' :: _ =>
          (acc.reverse, .error ⟨errPeek c .trailingComma, some (errPeek c .keyMustBeString)⟩, c)
        | [] => (acc.reverse, .error ⟨errPeek c .eofValue, some (errPeek c .eofObject)⟩, c)
        | _ => field c
    | _ =>
      if first then field c
      else (acc.reverse, .error (Fault.both (errPeek c .expectedObjectCommaOrEnd)), c)

end

end Reader

/-- A text read as one value: the value, and what follows it (an error if anything but
blanks does). -/
structure ReadText where
  source : List Char
  doc : Doc
  trailing : Option SyntaxError

/-- Read a whole text. -/
def ReadText.of (text : String) : ReadText :=
  let cs := text.toList
  let (doc, c) := Reader.readValue (cs.length + 2) 128 ⟨cs, 0⟩
  let c := c.skipBlank
  let trailing := if c.rest.isEmpty then none else some (Reader.errPeek c .trailingCharacters)
  ⟨cs, doc, trailing⟩

/-- The message of a syntax error with its position in `source`. -/
def SyntaxError.render (source : List Char) (e : SyntaxError) : String :=
  let p := Position.ofIndex source e.index
  s!"{e.code.message} at line {p.line} column {p.column}"

/-- Read a text as a value, or give the first syntax error with its position. -/
def Json.parse (text : String) : Except String Json :=
  let r := ReadText.of text
  match r.doc.toJson with
  | .error e => .error (e.render r.source)
  | .ok v =>
    match r.trailing with
    | some e => .error (e.render r.source)
    | none => .ok v

end ContainerCpi
