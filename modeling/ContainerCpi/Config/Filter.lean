import ContainerCpi.Engine.Hosts
import ContainerCpi.Regex.Check
import ContainerCpi.Text.Basic
import ContainerCpi.Text.Letters

/-!
# Log filter directives

Which log events are kept is written as directives separated by commas (empty ones are
skipped), read one after the other until one fails.

A directive is first trimmed of Unicode blanks.  A trimmed directive that is a level on its
own (a level name in any case, or a digit from 0 to 5) sets the level for everything.
Otherwise its shape is found in the trimmed directive: a target up to the first `[` or `=`,
then after `[` a span and after `=` a level.

* A target starts with a letter or digit of any script, `_`, `:` or `-`; after that it may
  hold anything.  A directive with neither mark is a target on its own, which must not be
  empty; with a span the target may be empty.  The target is checked before anything else.
* A span is a name up to its first `{` or `]`.  After `]` the span is closed.  After `{`
  comes one field, up to the first `}`, which must not be empty and must be followed by the
  closing `]`.  A field is a name, optionally followed by `=` and a value that ends at the
  next `=`.  A value that reads as a boolean or a number is compared as one; any other value
  is a pattern that a matcher must accept (`Regex.check`).
* After a closed span comes nothing, or `=` and a level.
* A level is an unsigned number (an optional `+`) from 0 to 5, a level name in any case, or
  nothing (which means `error`).

The span's name, its field and the level are taken from the directive as given, blanks
included, between the byte offsets found in the trimmed one.  When blanks were trimmed from
the front, these parts are shifted towards the front: ` a=info` reads the level `=info`, and
the field of ` [a{b=x(}]` reads `{b=x`.  An offset may even fall inside a character of the
directive as given, at which the reader faults (`FilterVerdict.faulted`).
-/

namespace ContainerCpi

/-- How much a log filter keeps. -/
inductive LevelFilter where
  | off | error | warn | info | debug | trace
  deriving DecidableEq, Repr, Inhabited

namespace LevelFilter

/-- The filters by their number, from `off` at 0 to `trace` at 5. -/
def byNumber : List LevelFilter := [.off, .error, .warn, .info, .debug, .trace]

/-- The filter's name. -/
def name : LevelFilter → String
  | .off => "off"
  | .error => "error"
  | .warn => "warn"
  | .info => "info"
  | .debug => "debug"
  | .trace => "trace"

/-- A level that stands for a whole directive: a name in any case or one digit from 0 to
5. -/
def global? (t : String) : Option LevelFilter :=
  match t.toList with
  | [d] => if '0' ≤ d ∧ d ≤ '5' then byNumber[d.toNat - 48]? else none
  | _ => byNumber.find? fun l => l.name == String.map Char.toLower t

/-- Read a level: a number 0 to 5, a name in any case, or nothing for `error`. -/
def parse? (s : String) : Option LevelFilter :=
  match Hosts.parseWord? s with
  | some n => byNumber[n]?
  | none =>
    if s.isEmpty then some .error
    else byNumber.find? fun l => l.name == String.map Char.toLower s

end LevelFilter

/-- Why filter directives cannot be used. -/
inductive FilterError where
  /-- A level that is no level. -/
  | level
  /-- A directive of the wrong shape. -/
  | directive
  /-- A field value that is a pattern a matcher does not accept. -/
  | field (refusal : Regex.Refusal)
  deriving DecidableEq, Repr

/-- The wording of each failure. -/
def FilterError.message : FilterError → String
  | .level =>
    "error parsing level filter: expected one of \"off\", \"error\", \"warn\", \"info\", " ++
      "\"debug\", \"trace\", or a number 0-5"
  | .directive => "invalid filter directive"
  | .field refusal => "invalid field filter: " ++ refusal.message

/-- How reading directives ends. -/
inductive FilterVerdict where
  | accepted
  | refused (error : FilterError)
  /-- The reader cut a directive inside a character and stopped with a fault. -/
  | faulted
  deriving DecidableEq, Repr

namespace LogFilter

/-- Whether a field value is compared as a boolean or a number: `true`, `false`, or a
decimal number with an optional sign, fraction and exponent (`inf`, `infinity` and `nan` in
any case included). -/
def isScalarValue (v : String) : Bool :=
  let unsigned := match v.toList with
    | '+' :: cs => cs
    | '-' :: cs => cs
    | cs => cs
  let word := String.map Char.toLower (String.ofList unsigned)
  let digits (cs : List Char) : List Char × List Char :=
    (cs.takeWhile Char.isDigit, cs.dropWhile Char.isDigit)
  let exponentOk (cs : List Char) : Bool :=
    match cs with
    | [] => true
    | e :: rest =>
      (e == 'e' || e == 'E') &&
        let rest := match rest with
          | '+' :: r => r
          | '-' :: r => r
          | r => r
        !rest.isEmpty && rest.all Char.isDigit
  let (whole, afterWhole) := digits unsigned
  let (fraction, afterFraction) := match afterWhole with
    | '.' :: more => digits more
    | more => ([], more)
  v == "true" || v == "false" || word == "inf" || word == "infinity" || word == "nan" ||
    (!(whole.isEmpty && fraction.isEmpty) && exponentOk afterFraction)

/-- Check a field, `name` or `name=value`: a value is a scalar or a pattern that a matcher
accepts. -/
def fieldVerdict (field : List Char) : FilterVerdict :=
  match field.dropWhile (· != '=') with
  | [] => .accepted
  | _ :: rest =>
    let value := String.ofList (rest.takeWhile (· != '='))
    if isScalarValue value then .accepted
    else
      match Regex.check value with
      | .ok () => .accepted
      | .error refusal => .refused (.field refusal)

/-- Whether a character may begin a target: a letter or digit of any script, `_`, `:` or
`-`. -/
def targetStart (c : Char) : Bool :=
  Text.isAlphanumeric c || c == '_' || c == ':' || c == '-'

/-- Check a target; an empty one is allowed only beside a span. -/
def targetVerdict (target : List Char) (withSpan : Bool) : FilterVerdict :=
  match target with
  | [] => if withSpan then .accepted else .refused .directive
  | c :: _ => if targetStart c then .accepted else .refused .directive

/-- Check a level written after `=`. -/
def levelVerdict (level : List Char) : FilterVerdict :=
  if (LevelFilter.parse? (String.ofList level)).isSome then .accepted else .refused .level

/-- The byte offsets at which a text can be cut: before each character and at its end. -/
def cuts (cs : List Char) : List Nat :=
  cs.scanl (fun n c => n + c.utf8Size) 0

/-- A text cut at a byte offset where it can be cut. -/
def cutAt : List Char → Nat → List Char × List Char
  | [], _ => ([], [])
  | c :: cs, k =>
    if k = 0 then ([], c :: cs)
    else
      let (before, after) := cutAt cs (k - c.utf8Size)
      (c :: before, after)

/-- The first of a list of verdicts that is not an acceptance. -/
def firstFailure : List FilterVerdict → FilterVerdict
  | [] => .accepted
  | .accepted :: more => firstFailure more
  | verdict :: _ => verdict

/-- The part of a text between two byte offsets, or nothing when either falls inside a
character. -/
def between (given : List Char) (start stop : Nat) : Option (List Char) :=
  if (cuts given).contains start && (cuts given).contains stop then
    some (cutAt (cutAt given stop).1 start).2
  else none

/-- Check the level that a directive as given holds from a byte offset on. -/
def levelFrom (given : List Char) (start : Nat) : FilterVerdict :=
  if (cuts given).contains start then levelVerdict (cutAt given start).2 else .faulted

/-- Check what follows a span whose `]` is at byte offset `close` of the trimmed directive,
given with its characters at their offsets: nothing, or `=` and a level. -/
def afterSpan (given : List Char) (marks : List (Nat × Char)) (close : Nat) :
    FilterVerdict :=
  match marks.filter (close < ·.1) with
  | [] => .accepted
  | (_, '=') :: _ => levelFrom given (close + 2)
  | _ => .refused .directive

/-- Check a span whose `[` is at byte offset `i` of the trimmed directive: its name, its
field if it has one, its closing `]` and what follows. -/
def spanVerdict (given : List Char) (marks : List (Nat × Char)) (i : Nat) : FilterVerdict :=
  match marks.find? fun (p, c) => i < p && (c == '\x7b' || c == ']') with
  | none => .refused .directive
  | some (j, c) =>
    match between given (i + 1) j with
    | none => .faulted
    | some _ =>
      if c == ']' then afterSpan given marks j
      else
        match marks.find? fun (p, c) => j < p && c == '\x7d' with
        | none => .refused .directive
        | some (k, _) =>
          match between given (j + 1) k with
          | none => .faulted
          | some [] => .refused .directive
          | some field =>
            match fieldVerdict field with
            | .accepted =>
              match marks.find? (k < ·.1) with
              | some (_, ']') => afterSpan given marks (k + 1)
              | _ => .refused .directive
            | verdict => verdict

/-- Check one directive. -/
def directive (d : String) : FilterVerdict :=
  let t := Text.trim d
  if (LevelFilter.global? t).isSome then .accepted
  else
    let given := d.toList
    let marks := (cuts t.toList).zip t.toList
    match marks.find? fun (_, c) => c == '[' || c == '=' with
    | none => targetVerdict t.toList false
    | some (i, mark) =>
      match targetVerdict ((marks.filter (·.1 < i)).map (·.2)) (mark == '[') with
      | .accepted => if mark == '=' then levelFrom given (i + 1) else spanVerdict given marks i
      | verdict => verdict

/-- Check directives separated by commas, one after the other. -/
def check (directives : String) : FilterVerdict :=
  firstFailure (((directives.splitOn ",").filter (!·.isEmpty)).map directive)

end LogFilter

end ContainerCpi
