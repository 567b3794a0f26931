import ContainerCpi.Regex.Parse
import ContainerCpi.Regex.Properties

/-!
# Patterns a matcher accepts

A well-formed pattern is compiled into a deterministic automaton over the bytes of UTF-8
text.  Two more conditions decide whether that succeeds.

* Outside Unicode mode (after the flag `-u`) the items of a pattern stand for bytes, and the
  automaton must still match whole characters only.  So a literal beyond ASCII, `.`, a
  negated class (bracketed, Perl or ASCII) and any Unicode class are refused there, while in
  Unicode mode a Unicode class must name a class (`UnicodeQuery.resolves`).  A flag setting
  holds until the group around it closes, across the alternatives that follow it.
* A word boundary in Unicode mode (`\b`, `\B`, `\<`, `\>`, `\b{start}` and the others) needs
  to look at whole characters on both sides, which the automaton cannot.  A boundary under a
  repetition `{0}` or `{0,0}` matches only the empty text and is never compiled.

A malformed pattern and a refused item are both reported as a failure to build the
automaton from the pattern; a Unicode word boundary has its own report.
-/

namespace ContainerCpi.Regex

/-- Why a pattern cannot be compiled into a matcher. -/
inductive Refusal where
  | malformed
  | unicodeWordBoundary
  deriving DecidableEq, Repr

/-- The report of a refusal. -/
def Refusal.message : Refusal → String
  | .malformed => "error building NFA"
  | .unicodeWordBoundary =>
    "unsupported regex feature for DFAs: cannot build DFAs for regexes with Unicode word " ++
      "boundaries; switch to ASCII word boundaries, or heuristically enable Unicode word " ++
      "boundaries or use a different regex engine"

mutual

/-- Whether the inside of a class names whole characters only, in Unicode mode or not. -/
def ClassNode.fits (unicode : Bool) : ClassNode → Bool
  | .empty => true
  | .literal c => unicode || c.toNat < 128
  | .range lo hi => unicode || (lo.toNat < 128 && hi.toNat < 128)
  | .ascii _ negated => unicode || !negated
  | .unicode query _ => unicode && query.resolves
  | .perl _ negated => unicode || !negated
  | .bracketed negated body => body.fits unicode && (unicode || !negated)
  | .union items => ClassNode.allFit unicode items
  | .op _ lhs rhs => lhs.fits unicode && rhs.fits unicode

/-- Whether every item of a list fits. -/
def ClassNode.allFit (unicode : Bool) : List ClassNode → Bool
  | [] => true
  | c :: cs => c.fits unicode && ClassNode.allFit unicode cs

end

/-- What compiling a pattern finds: whether Unicode mode holds after it, and whether it
compiles a Unicode word boundary. -/
structure Scan where
  unicode : Bool
  wordBoundary : Bool
  deriving DecidableEq, Repr

mutual

/-- Compile a pattern in a mode: nothing when an item is refused. -/
def Ast.scan (unicode : Bool) : Ast → Option Scan
  | .empty => some ⟨unicode, false⟩
  | .flags settings => some ⟨(settings.stateOf .unicode).getD unicode, false⟩
  | .literal c => if unicode || c.toNat < 128 then some ⟨unicode, false⟩ else none
  | .dot => if unicode then some ⟨unicode, false⟩ else none
  | .assertion kind => some ⟨unicode, unicode && kind.onWords⟩
  | .unicode query _ => if unicode && query.resolves then some ⟨unicode, false⟩ else none
  | .perl _ negated => if unicode || !negated then some ⟨unicode, false⟩ else none
  | .bracketed negated body =>
    if (ClassNode.bracketed negated body).fits unicode then some ⟨unicode, false⟩ else none
  | .repetition op sub =>
    (sub.scan unicode).map fun s => ⟨unicode, s.wordBoundary && !op.never⟩
  | .group kind sub =>
    (sub.scan ((kind.flags.stateOf .unicode).getD unicode)).map fun s =>
      ⟨unicode, s.wordBoundary⟩
  | .alternation branches => Ast.scanAll unicode branches
  | .concat items => Ast.scanAll unicode items

/-- Compile patterns one after the other, each in the mode the previous one leaves. -/
def Ast.scanAll (unicode : Bool) : List Ast → Option Scan
  | [] => some ⟨unicode, false⟩
  | a :: as =>
    match a.scan unicode with
    | none => none
    | some s =>
      match Ast.scanAll s.unicode as with
      | none => none
      | some t => some ⟨t.unicode, s.wordBoundary || t.wordBoundary⟩

end

/-- Whether a pattern can be compiled into a matcher, which starts in Unicode mode. -/
def check (pattern : String) : Except Refusal Unit :=
  match parse pattern with
  | .error _ => .error .malformed
  | .ok ast =>
    match ast.scan true with
    | none => .error .malformed
    | some s => if s.wordBoundary then .error .unicodeWordBoundary else .ok ()

end ContainerCpi.Regex
