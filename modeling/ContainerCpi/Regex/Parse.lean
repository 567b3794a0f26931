import ContainerCpi.Regex.Syntax
import ContainerCpi.Text.Basic
import ContainerCpi.Text.Letters

/-!
# Reading patterns

A pattern is read left to right into an `Ast`, or refused with the first `SyntaxError`.
The rules that decide whether a pattern is well formed:

* `{` always begins a counted repetition, so a literal brace is escaped; `}` and `]` outside
  a class stand for themselves.  A repetition needs an item before it in its sequence: none
  at the start of a group or an alternative, and a flag setting is no item.  The counts of
  `{m,n}` are decimals below `2^32`, may have blanks around them, and `m ≤ n`; `{,n}` is
  refused.
* After a backslash: a meta character `\ . + * ? ( ) | [ ] { } ^ $ # & - ~` or any other ASCII
  character that is no letter, digit, `<` or `>` stands for itself; `a f t n r v` are
  control characters; `A z b B < >` and `b{start}`, `b{end}`, `b{start-half}`, `b{end-half}`
  are assertions; `d s w D S W` are Perl classes; `p`/`P` take one letter or a name in
  braces; `x`, `u`, `U` take two, four or eight hexadecimal digits or one or more in braces
  naming a Unicode scalar value.  Digits (back-references) and other letters are refused.
* A group opens with `(`, `(?P<name>`, `(?<name>`, `(?flags:` or is a flag setting
  `(?flags)`.  Names begin with `_` or a letter and go on with letters, digits, `_ . [ ]`;
  each name is used once.  Flags are letters of `i m s U u R x`, each at most once, with at
  most one `-`, which must not come last; `(?)` is refused, and so is look-around.
* A class opens with `[`, negated by `^`; any `-` right after that, and then a `]` if no `-`
  came, stand for themselves.  Ranges go from a character to a character not below it.
  `[:name:]` inside a class is an ASCII class when the name is one, and a nested class
  otherwise.
* With the `x` flag (verbose mode), blanks and comments from `#` to the end of the line are
  skipped between items, in classes and between the digits of escapes and counts.  A flag
  setting holds until the group around it closes.

A tree that nests deeper than `nestLimit` is refused as well.
-/

namespace ContainerCpi.Regex

/-- Why a pattern is not well formed. -/
inductive SyntaxError where
  | classEscapeInvalid | classRangeInvalid | classRangeLiteral | classUnclosed
  | decimalEmpty | decimalInvalid
  | escapeHexEmpty | escapeHexInvalid | escapeHexInvalidDigit | escapeUnexpectedEof
  | escapeUnrecognized
  | flagDanglingNegation | flagDuplicate | flagRepeatedNegation | flagUnexpectedEof
  | flagUnrecognized
  | groupNameDuplicate | groupNameEmpty | groupNameInvalid | groupNameUnexpectedEof
  | groupUnclosed | groupUnopened
  | nestLimitExceeded
  | repetitionCountInvalid | repetitionCountDecimalEmpty | repetitionCountUnclosed
  | repetitionMissing
  | specialWordBoundaryUnclosed | specialWordBoundaryUnrecognized
  | specialWordOrRepetitionUnexpectedEof
  | unicodeClassInvalid
  | unsupportedBackreference | unsupportedLookAround
  deriving DecidableEq, Repr

/-- Where reading stands: the text left, whether blanks and comments are skipped, and the
names given to groups so far. -/
structure Reader where
  rest : List Char
  verbose : Bool
  names : List String

/-- Reading a part of a pattern. -/
abbrev ReadM := StateT Reader (Except SyntaxError)

/-- One item that a backslash or a single character stands for. -/
inductive Primitive where
  | literal (c : Char)
  | assertion (kind : Assertion)
  | dot
  | perl (kind : PerlClass) (negated : Bool)
  | unicode (query : UnicodeQuery) (negated : Bool)

namespace Primitive

/-- The item as a pattern. -/
def toAst : Primitive → Ast
  | .literal c => .literal c
  | .assertion kind => .assertion kind
  | .dot => .dot
  | .perl kind negated => .perl kind negated
  | .unicode query negated => .unicode query negated

/-- The item inside a class, where assertions have no place. -/
def classItem : Primitive → Except SyntaxError ClassNode
  | .literal c => .ok (.literal c)
  | .perl kind negated => .ok (.perl kind negated)
  | .unicode query negated => .ok (.unicode query negated)
  | .assertion _ | .dot => .error .classEscapeInvalid

/-- The item as an end of a range, which must be a single character. -/
def rangeEnd : Primitive → Except SyntaxError Char
  | .literal c => .ok c
  | _ => .error .classRangeLiteral

end Primitive

/-- A Unicode class in braces: split at the first `!=`, else the first `:`, else the first
`=`, into a property and a value; a name otherwise. -/
def UnicodeQuery.ofBraced (text : List Char) : UnicodeQuery :=
  let split (sep : List Char) : Option (List Char × List Char) :=
    (List.range (text.length + 1)).findSome? fun i =>
      if sep.isPrefixOf (text.drop i) then some (text.take i, text.drop (i + sep.length))
      else none
  match split ['!', '='] <|> split [':'] <|> split ['='] with
  | some (p, v) => .byValue (String.ofList p) (String.ofList v)
  | none => .named (String.ofList text)

namespace Read

/-- A refusal as a step of reading. -/
def orFail {α : Type} : Except SyntaxError α → ReadM α
  | .ok a => pure a
  | .error e => throw e

/-- Text without its leading blanks and comments; `inComment` tells whether a comment runs,
which ends after the next line feed. -/
def skipBlanks : Bool → List Char → List Char
  | _, [] => []
  | true, c :: rest => skipBlanks (c != '\n') rest
  | false, c :: rest =>
    if Text.isSpace c then skipBlanks false rest
    else if c == '#' then skipBlanks true rest
    else c :: rest

/-- The current character. -/
def current? : ReadM (Option Char) := return (← get).rest.head?

/-- Step past the current character. -/
def bump : ReadM Unit := modify fun r => { r with rest := r.rest.drop 1 }

/-- Skip blanks and comments, in verbose mode. -/
def skipSpace : ReadM Unit :=
  modify fun r => if r.verbose then { r with rest := skipBlanks false r.rest } else r

/-- Step past the current character and the blanks after it; whether text is left. -/
def advance : ReadM Bool := do
  bump
  skipSpace
  return !(← get).rest.isEmpty

/-- Go on reading at a given rest of the text. -/
def seek (rest : List Char) : ReadM Unit := modify fun r => { r with rest := rest }

/-- The character after the current one, as a range in a class sees it: in verbose mode
past blanks and one `#`, or the very next one when nothing else follows. -/
def peekSpace (verbose : Bool) (after : List Char) : Option Char :=
  let rec past : List Char → Bool → Option Char
    | [], _ => none
    | c :: rest, hashSeen =>
      if Text.isSpace c then past rest hashSeen
      else if !hashSeen && c == '#' then past rest true
      else some c
  if verbose then (past after false).orElse fun _ => after.head? else after.head?

/-- Whether a character is a hexadecimal digit. -/
def isHexDigit (c : Char) : Bool :=
  c.isDigit || ('a' ≤ c && c ≤ 'f') || ('A' ≤ c && c ≤ 'F')

/-- The value of a hexadecimal digit. -/
def hexDigitValue (c : Char) : Nat :=
  if c.isDigit then c.toNat - 48 else if 'a' ≤ c then c.toNat - 87 else c.toNat - 55

/-- The character that hexadecimal digits name, when their value fits 32 bits and is a
Unicode scalar value. -/
def scalarOf (digits : List Char) : Option Char :=
  let n := digits.foldl (fun acc c => acc * 16 + hexDigitValue c) 0
  if n < 4294967296 ∧ n.isValidChar then some (Char.ofNat n) else none

/-- Exactly `count` hexadecimal digits from the current character on, blanks between them
skipped in verbose mode; reading stops past the last. -/
def fixedDigits : Nat → ReadM (List Char)
  | 0 => return []
  | count + 1 => do
    match ← current? with
    | some c =>
      if !isHexDigit c then throw .escapeHexInvalidDigit
      else if count == 0 then
        discard advance
        return [c]
      else
        unless (← advance) do throw .escapeUnexpectedEof
        return c :: (← fixedDigits count)
    | none => throw .escapeUnexpectedEof

/-- Hexadecimal digits after an opening brace, up to the closing one. -/
def bracedDigits : Nat → ReadM (List Char)
  | 0 => throw .escapeUnexpectedEof
  | fuel + 1 => do
    unless (← advance) do throw .escapeUnexpectedEof
    match ← current? with
    | some '\x7d' => return []
    | some c =>
      if isHexDigit c then return c :: (← bracedDigits fuel) else throw .escapeHexInvalidDigit
    | none => throw .escapeUnexpectedEof

/-- A code point after `\x`, `\u` or `\U` (the current character): `width` digits, or
digits in braces. -/
def hexEscape (width fuel : Nat) : ReadM Char := do
  unless (← advance) do throw .escapeUnexpectedEof
  if (← current?) == some '\x7b' then
    let digits ← bracedDigits fuel
    discard advance
    if digits.isEmpty then throw .escapeHexEmpty
    match scalarOf digits with
    | some c => return c
    | none => throw .escapeHexInvalid
  else
    match scalarOf (← fixedDigits width) with
    | some c => return c
    | none => throw .escapeHexInvalid

/-- The characters after an opening brace, up to the closing one. -/
def bracedText : Nat → ReadM (List Char)
  | 0 => throw .escapeUnexpectedEof
  | fuel + 1 => do
    unless (← advance) do throw .escapeUnexpectedEof
    match ← current? with
    | some '\x7d' => return []
    | some c => return c :: (← bracedText fuel)
    | none => throw .escapeUnexpectedEof

/-- A Unicode class after `\p` or `\P` (the current character): one letter, or a name in
braces. -/
def unicodeClass (negated : Bool) (fuel : Nat) : ReadM Primitive := do
  unless (← advance) do throw .escapeUnexpectedEof
  match ← current? with
  | some '\x7b' =>
    let text ← bracedText fuel
    bump
    return .unicode (UnicodeQuery.ofBraced text) negated
  | some '\\' => throw .unicodeClassInvalid
  | some c =>
    discard advance
    return .unicode (.oneLetter c) negated
  | none => throw .escapeUnexpectedEof

/-- Whether a character may appear in the name of a special word boundary. -/
def isBoundaryNameChar (c : Char) : Bool :=
  ('A' ≤ c && c ≤ 'Z') || ('a' ≤ c && c ≤ 'z') || c == '-'

/-- The characters of a special word boundary's name. -/
def boundaryName : Nat → ReadM (List Char)
  | 0 => return []
  | fuel + 1 => do
    match ← current? with
    | some c =>
      if isBoundaryNameChar c then
        discard advance
        return c :: (← boundaryName fuel)
      else return []
    | none => return []

/-- A special word boundary `{start}`, `{end}`, `{start-half}` or `{end-half}` after `\b`, at
its brace.  When the brace holds no name it begins a counted repetition instead, and reading
goes back to it. -/
def specialBoundary (fuel : Nat) : ReadM (Option Assertion) := do
  let saved ← get
  unless (← advance) do throw .specialWordOrRepetitionUnexpectedEof
  match ← current? with
  | some c =>
    if !isBoundaryNameChar c then
      set saved
      return none
    let name ← boundaryName fuel
    if (← current?) != some '\x7d' then throw .specialWordBoundaryUnclosed
    bump
    match String.ofList name with
    | "start" => return some .wordStart
    | "end" => return some .wordEnd
    | "start-half" => return some .wordStartHalf
    | "end-half" => return some .wordEndHalf
    | _ => throw .specialWordBoundaryUnrecognized
  | none => throw .specialWordOrRepetitionUnexpectedEof

/-- The characters that have a meaning of their own in patterns. -/
def isMetaChar (c : Char) : Bool := "\\.+*?()|[]\x7b\x7d^$#&-~".toList.contains c

/-- Whether a backslash before a character makes it stand for itself. -/
def isEscapable (c : Char) : Bool :=
  isMetaChar c || (c.toNat < 128 && !c.isAlphanum && c != '<' && c != '>')

/-- An escape, at its backslash. -/
def escape (fuel : Nat) : ReadM Primitive := do
  bump
  match ← current? with
  | none => throw .escapeUnexpectedEof
  | some c =>
    if c.isDigit then throw .unsupportedBackreference
    else if c == 'x' then return .literal (← hexEscape 2 fuel)
    else if c == 'u' then return .literal (← hexEscape 4 fuel)
    else if c == 'U' then return .literal (← hexEscape 8 fuel)
    else if c == 'p' || c == 'P' then unicodeClass (c == 'P') fuel
    else
      match PerlClass.ofChar? c with
      | some (kind, negated) =>
        bump
        return .perl kind negated
      | none =>
        bump
        if isEscapable c then return .literal c
        match c with
        | 'a' => return .literal '\x07'
        | 'f' => return .literal '\x0c'
        | 't' => return .literal '\t'
        | 'n' => return .literal '\n'
        | 'r' => return .literal '\r'
        | 'v' => return .literal '\x0b'
        | 'A' => return .assertion .startText
        | 'z' => return .assertion .endText
        | 'b' =>
          if (← current?) == some '\x7b' then
            return .assertion ((← specialBoundary fuel).getD .wordBoundary)
          else return .assertion .wordBoundary
        | 'B' => return .assertion .notWordBoundary
        | '<' => return .assertion .wordStart
        | '>' => return .assertion .wordEnd
        | _ => throw .escapeUnrecognized

/-- Whether a character may appear in a group's name, at its start or later. -/
def isNameChar (first : Bool) (c : Char) : Bool :=
  if first then c == '_' || Text.isAlphabetic c
  else c == '_' || c == '.' || c == '[' || c == ']' || Text.isAlphanumeric c

/-- A group's name up to its closing `>`, and the text after that. -/
def nameChars (first : Bool) : List Char → Except SyntaxError (List Char × List Char)
  | [] => .error .groupNameUnexpectedEof
  | c :: rest =>
    if c == '>' then .ok ([], rest)
    else if isNameChar first c then (nameChars false rest).map fun (n, r) => (c :: n, r)
    else .error .groupNameInvalid

/-- A group's name, after `(?P<` or `(?<`: not empty and not given before. -/
def captureName : ReadM String := do
  let r ← get
  if r.rest.isEmpty then throw .groupNameUnexpectedEof
  let (name, rest) ← orFail (nameChars true r.rest)
  if name.isEmpty then throw .groupNameEmpty
  let name := String.ofList name
  if r.names.contains name then throw .groupNameDuplicate
  set { r with rest := rest, names := r.names ++ [name] }
  return name

/-- Flag letters up to `:` or `)`, which is left unread.  `negated` tells whether the `-`
came, and `dangling` whether it was the last character read. -/
def flagItems : List Char → FlagSettings → Bool → Bool →
    Except SyntaxError (FlagSettings × List Char)
  | [], _, _, _ => .error .flagUnexpectedEof
  | c :: rest, seen, negated, dangling =>
    if c == ':' || c == ')' then
      if dangling then .error .flagDanglingNegation else .ok (seen, c :: rest)
    else do
      let (seen, negated, dangling) ←
        if c == '-' then
          if negated then Except.error .flagRepeatedNegation else pure (seen, true, true)
        else
          match Flag.ofChar? c with
          | none => Except.error .flagUnrecognized
          | some f =>
            if seen.any (·.1 == f) then Except.error .flagDuplicate
            else pure (seen ++ [(f, !negated)], negated, false)
      if rest.isEmpty then .error .flagUnexpectedEof else flagItems rest seen negated dangling

/-- What an opening parenthesis begins. -/
inductive Opening where
  | setFlags (settings : FlagSettings)
  | group (kind : GroupKind)

/-- Whether the text after a parenthesis asks for look-around. -/
def opensLookaround (cs : List Char) : Bool :=
  ['?', '='].isPrefixOf cs || ['?', '!'].isPrefixOf cs || ['?', '<', '='].isPrefixOf cs ||
    ['?', '<', '!'].isPrefixOf cs

/-- What an opening parenthesis (the current character) begins. -/
def opening : ReadM Opening := do
  bump
  skipSpace
  let r ← get
  if opensLookaround r.rest then throw .unsupportedLookAround
  match r.rest with
  | '?' :: 'P' :: '<' :: more =>
    seek more
    return .group (.capture (some (← captureName)))
  | '?' :: '<' :: more =>
    seek more
    return .group (.capture (some (← captureName)))
  | '?' :: more =>
    if more.isEmpty then throw .groupUnclosed
    let (settings, rest) ← orFail (flagItems more [] false false)
    match rest with
    | ')' :: after =>
      if settings.isEmpty then throw .repetitionMissing
      seek after
      return .setFlags settings
    | _ :: after =>
      seek after
      return .group (.plain settings)
    | [] => throw .flagUnexpectedEof
  | _ => return .group (.capture none)

/-- Decimal digits, with blanks and comments between them skipped in verbose mode. -/
def digits : Nat → ReadM (List Char)
  | 0 => return []
  | fuel + 1 => do
    match ← current? with
    | some c =>
      if c.isDigit then
        discard advance
        return c :: (← digits fuel)
      else return []
    | none => return []

/-- Blanks after a decimal. -/
def trailingBlanks : Nat → ReadM Unit
  | 0 => return ()
  | fuel + 1 => do
    match ← current? with
    | some c =>
      if Text.isSpace c then
        discard advance
        trailingBlanks fuel
    | none => return ()

/-- A decimal count below `2^32`, blanks around it allowed.  Reading goes on past the blanks
whether or not digits came, and the caller decides whether the count was needed. -/
def decimal (fuel : Nat) : ReadM (Except SyntaxError Nat) := do
  modify fun r => { r with rest := r.rest.dropWhile Text.isSpace }
  let ds ← digits fuel
  trailingBlanks fuel
  if ds.isEmpty then return .error .decimalEmpty
  let n := ds.foldl (fun acc c => acc * 10 + (c.toNat - 48)) 0
  return if n < 4294967296 then .ok n else .error .decimalInvalid

/-- A missing count, as a count of a repetition. -/
def asCount : Except SyntaxError Nat → Except SyntaxError Nat
  | .error .decimalEmpty => .error .repetitionCountDecimalEmpty
  | e => e

/-- The item a repetition applies to: the last of the sequence, which must be no flag
setting. -/
def lastItem : List Ast → ReadM (Ast × List Ast)
  | [] => throw .repetitionMissing
  | .flags _ :: _ => throw .repetitionMissing
  | .empty :: _ => throw .repetitionMissing
  | last :: before => return (last, before)

/-- Apply `?`, `*` or `+` (the current character), possibly made lazy by a `?`, to the last
item of a sequence kept in reverse. -/
def repeated (op : Repetition) (items : List Ast) : ReadM (List Ast) := do
  let (last, before) ← lastItem items
  bump
  if (← current?) == some '?' then bump
  return .repetition op last :: before

/-- Apply a counted repetition (at its brace) to the last item of a sequence kept in
reverse. -/
def counted (fuel : Nat) (items : List Ast) : ReadM (List Ast) := do
  let (last, before) ← lastItem items
  unless (← advance) do throw .repetitionCountUnclosed
  let low := asCount (← decimal fuel)
  let op ← match ← current? with
    | none => throw .repetitionCountUnclosed
    | some ',' => do
      unless (← advance) do throw .repetitionCountUnclosed
      if (← current?) != some '\x7d' then
        let m ← orFail low
        let n ← orFail (asCount (← decimal fuel))
        pure (Repetition.between m n)
      else pure (Repetition.atLeast (← orFail low))
    | some _ => pure (Repetition.exactly (← orFail low))
  if (← current?) != some '\x7d' then throw .repetitionCountUnclosed
  if (← advance) then
    if (← current?) == some '?' then bump
  if !op.valid then throw .repetitionCountInvalid
  return .repetition op last :: before

/-- The names of the ASCII classes. -/
def asciiClassNames : List String :=
  ["alnum", "alpha", "ascii", "blank", "cntrl", "digit", "graph", "lower", "print", "punct",
    "space", "upper", "word", "xdigit"]

/-- An ASCII class `[:name:]` or `[:^name:]` at its bracket, and the text after it, when the
text is one. -/
def asciiClass : List Char → Option (ClassNode × List Char)
  | '[' :: ':' :: rest =>
    let (negated, body) := match rest with
      | '^' :: more => (true, more)
      | more => (false, more)
    if body.isEmpty then none
    else
      let name := body.takeWhile (· != ':')
      match body.drop name.length with
      | ':' :: ']' :: more =>
        let name := String.ofList name
        if asciiClassNames.contains name then some (.ascii name negated, more) else none
      | _ => none
  | _ => none

/-- A character or an escape inside a class. -/
def classPrimitive (fuel : Nat) : ReadM Primitive := do
  match ← current? with
  | some '\\' => escape fuel
  | some c =>
    bump
    return .literal c
  | none => throw .classUnclosed

/-- The opening of a class at its bracket: whether it is negated, and the `-` or `]` that
stand for themselves right after it. -/
def classOpen (fuel : Nat) : ReadM (Bool × List ClassNode) := do
  unless (← advance) do throw .classUnclosed
  let negated ← if (← current?) == some '^' then do
      unless (← advance) do throw .classUnclosed
      pure true
    else pure false
  let rec dashes : Nat → ReadM (List ClassNode)
    | 0 => return []
    | fuel + 1 => do
      if (← current?) == some '-' then
        unless (← advance) do throw .classUnclosed
        return .literal '-' :: (← dashes fuel)
      else return []
  let leading ← dashes fuel
  if leading.isEmpty && (← current?) == some ']' then
    unless (← advance) do throw .classUnclosed
    return (negated, [.literal ']'])
  return (negated, leading)

/-- An item of a class: a character, an escape, or a range between two characters.  A `-`
before `]` or `-` begins no range. -/
def classRange (fuel : Nat) : ReadM ClassNode := do
  let first ← classPrimitive fuel
  skipSpace
  let r ← get
  match r.rest with
  | [] => throw .classUnclosed
  | c :: more =>
    let next := peekSpace r.verbose more
    if c != '-' || next == some ']' || next == some '-' then orFail first.classItem
    else
      unless (← advance) do throw .classUnclosed
      let second ← classPrimitive fuel
      let lo ← orFail first.rangeEnd
      let hi ← orFail second.rangeEnd
      if lo ≤ hi then return .range lo hi else throw .classRangeInvalid

/-- The items of a class up to and past its closing bracket.  `items` are the items since
the last set operation, in reverse; `pending` is the operation waiting for its right side,
with its left side. -/
def classItems : Nat → Option (SetOp × ClassNode) → List ClassNode → ReadM ClassNode
  | 0, _, _ => throw .classUnclosed
  | fuel + 1, pending, items => do
    skipSpace
    let r ← get
    let join (rhs : ClassNode) : ClassNode :=
      match pending with
      | none => rhs
      | some (kind, lhs) => .op kind lhs rhs
    let side := ClassNode.sideBySide items.reverse
    match r.rest with
    | [] => throw .classUnclosed
    | '[' :: _ =>
      match asciiClass r.rest with
      | some (node, more) =>
        seek more
        classItems fuel pending (node :: items)
      | none =>
        let (negated, first) ← classOpen fuel
        let inner ← classItems fuel none first.reverse
        classItems fuel pending (.bracketed negated inner :: items)
    | ']' :: more =>
      seek more
      return join side
    | '&' :: '&' :: more =>
      seek more
      classItems fuel (some (.intersection, join side)) []
    | '-' :: '-' :: more =>
      seek more
      classItems fuel (some (.difference, join side)) []
    | '~' :: '~' :: more =>
      seek more
      classItems fuel (some (.symmetricDifference, join side)) []
    | _ => classItems fuel pending ((← classRange fuel) :: items)

/-- A bracketed class, at its bracket. -/
def bracketClass (fuel : Nat) : ReadM Ast := do
  let (negated, first) ← classOpen fuel
  return .bracketed negated (← classItems fuel none first.reverse)

/-- A single-character item or an escape outside classes. -/
def primitive (fuel : Nat) : ReadM Primitive := do
  match ← current? with
  | some '\\' => escape fuel
  | some '.' =>
    bump
    return .dot
  | some '^' =>
    bump
    return .assertion .startLine
  | some '$' =>
    bump
    return .assertion .endLine
  | some c =>
    bump
    return .literal c
  | none => throw .escapeUnexpectedEof

/-- Alternatives read so far and the items of the last one, in reverse, as one tree. -/
def finish (branches items : List Ast) : Ast :=
  let last := Ast.sequence items.reverse
  if branches.isEmpty then last else .alternation (branches ++ [last])

/-- The inside of a group, or the whole pattern when `inGroup` is false: alternatives
separated by `|`, read up to the `)` that closes the group (left unread) or the end.
`branches` are the alternatives read so far; `items` the items of the current one, in
reverse.  Each step reads at least one character, so `fuel` one more than the length of
the text is enough. -/
def body : Nat → Bool → List Ast → List Ast → ReadM Ast
  | 0, _, _, _ => throw .groupUnclosed
  | fuel + 1, inGroup, branches, items => do
    skipSpace
    match ← current? with
    | none => if inGroup then throw .groupUnclosed else return finish branches items
    | some ')' => if inGroup then return finish branches items else throw .groupUnopened
    | some '|' =>
      bump
      body fuel inGroup (branches ++ [Ast.sequence items.reverse]) []
    | some '(' =>
      let outer := (← get).verbose
      match ← opening with
      | .setFlags settings =>
        if let some v := settings.stateOf .ignoreWhitespace then
          modify fun r => { r with verbose := v }
        body fuel inGroup branches (.flags settings :: items)
      | .group kind =>
        if let some v := kind.flags.stateOf .ignoreWhitespace then
          modify fun r => { r with verbose := v }
        let sub ← body fuel true [] []
        bump
        modify fun r => { r with verbose := outer }
        body fuel inGroup branches (.group kind sub :: items)
    | some '[' => body fuel inGroup branches ((← bracketClass fuel) :: items)
    | some '?' => body fuel inGroup branches (← repeated .zeroOrOne items)
    | some '*' => body fuel inGroup branches (← repeated .zeroOrMore items)
    | some '+' => body fuel inGroup branches (← repeated .oneOrMore items)
    | some '\x7b' => body fuel inGroup branches (← counted fuel items)
    | some _ => body fuel inGroup branches ((← primitive fuel).toAst :: items)

end Read

/-- Read a pattern, refusing it when it is malformed or nests too deeply. -/
def parse (pattern : String) : Except SyntaxError Ast := do
  let text := pattern.toList
  let (ast, _) ← (Read.body (text.length + 1) false [] []).run ⟨text, false, []⟩
  if ast.depth > nestLimit then throw .nestLimitExceeded
  return ast

end ContainerCpi.Regex
