/-!
# Regular expression syntax

The patterns that field filters give for values are regular expressions in the syntax of
the Unicode-aware engines: literals and escapes, `.`, the anchors `^ $ \A \z` and the word
boundaries `\b \B \< \> \b{start}` and friends, the Perl classes `\d \s \w`, Unicode classes
`\pL` and `\p{…}`, bracketed classes with ranges, ASCII classes `[:alpha:]`, nested classes
and the set operations `&&`, `--` and `~~`; groups, named groups and flag settings;
repetition `? * +` and counted repetition `{m}`, `{m,}`, `{m,n}`; and alternation.

This module gives the tree a pattern is read into.  A bracketed class is read into one tree
of `ClassNode`s, where a union lists two or more items and a set operation has two sides.

Deeply nested patterns are refused.  How deep a tree is counts the nodes that nest others:
groups, repetitions, alternations, concatenations and bracketed classes, and inside a class
the nested brackets, unions and set operations (`Ast.depth`).
-/

namespace ContainerCpi.Regex

/-- The flags a pattern can set with `(?flags)` or `(?flags:…)`. -/
inductive Flag where
  | caseInsensitive | multiLine | dotMatchesNewLine | swapGreed | unicode | crlf
  | ignoreWhitespace
  deriving DecidableEq, Repr

/-- The flag a letter names: `i m s U u R x`. -/
def Flag.ofChar? : Char → Option Flag
  | 'i' => some .caseInsensitive
  | 'm' => some .multiLine
  | 's' => some .dotMatchesNewLine
  | 'U' => some .swapGreed
  | 'u' => some .unicode
  | 'R' => some .crlf
  | 'x' => some .ignoreWhitespace
  | _ => none

/-- Flags as written: each flag with the state it is set to, off when it comes after the
`-`. -/
abbrev FlagSettings := List (Flag × Bool)

/-- The state settings give a flag, if they name it. -/
def FlagSettings.stateOf (settings : FlagSettings) (flag : Flag) : Option Bool :=
  (settings.find? (·.1 == flag)).map (·.2)

/-- A condition on the position between two characters. -/
inductive Assertion where
  | startLine | endLine | startText | endText
  | wordBoundary | notWordBoundary
  | wordStart | wordEnd | wordStartHalf | wordEndHalf
  deriving DecidableEq, Repr

/-- Whether an assertion looks at the word characters around the position. -/
def Assertion.onWords : Assertion → Bool
  | .startLine | .endLine | .startText | .endText => false
  | .wordBoundary | .notWordBoundary | .wordStart | .wordEnd | .wordStartHalf
  | .wordEndHalf => true

/-- The classes `\d`, `\s` and `\w`. -/
inductive PerlClass where
  | digit | space | word
  deriving DecidableEq, Repr

/-- The class a letter names, negated when the letter is upper case. -/
def PerlClass.ofChar? : Char → Option (PerlClass × Bool)
  | 'd' => some (.digit, false)
  | 's' => some (.space, false)
  | 'w' => some (.word, false)
  | 'D' => some (.digit, true)
  | 'S' => some (.space, true)
  | 'W' => some (.word, true)
  | _ => none

/-- A Unicode class as written after `\p`: one letter, a name in braces, or a property and a
value in braces (`\p{sc=Greek}`, `\p{sc:Greek}` or `\p{sc!=Greek}`). -/
inductive UnicodeQuery where
  | oneLetter (c : Char)
  | named (name : String)
  | byValue (property value : String)
  deriving DecidableEq, Repr

/-- How often a repeated item may occur. -/
inductive Repetition where
  | zeroOrOne | zeroOrMore | oneOrMore
  | exactly (n : Nat)
  | atLeast (n : Nat)
  | between (m n : Nat)
  deriving DecidableEq, Repr

/-- Whether the bounds are in order: a range `{m,n}` needs `m ≤ n`. -/
def Repetition.valid : Repetition → Bool
  | .between m n => m ≤ n
  | _ => true

/-- Whether the item may occur no time at all and no more: `{0}` and `{0,0}`.  Such a
repetition matches only the empty text, whatever it repeats. -/
def Repetition.never : Repetition → Bool
  | .exactly 0 => true
  | .between _ 0 => true
  | _ => false

/-- The set operations of bracketed classes. -/
inductive SetOp where
  | intersection | difference | symmetricDifference
  deriving DecidableEq, Repr

/-- The inside of a bracketed class. -/
inductive ClassNode where
  /-- Nothing, as in the right side of `[a&&]`. -/
  | empty
  | literal (c : Char)
  | range (lo hi : Char)
  /-- An ASCII class `[:name:]`, negated by `^`. -/
  | ascii (name : String) (negated : Bool)
  | unicode (query : UnicodeQuery) (negated : Bool)
  | perl (kind : PerlClass) (negated : Bool)
  | bracketed (negated : Bool) (body : ClassNode)
  /-- Two or more items side by side. -/
  | union (items : List ClassNode)
  | op (kind : SetOp) (lhs rhs : ClassNode)
  deriving Repr

/-- What a group is. -/
inductive GroupKind where
  /-- A group that captures, possibly under a name. -/
  | capture (name : Option String)
  /-- A group that does not capture, with the flags it sets for its inside. -/
  | plain (flags : FlagSettings)
  deriving DecidableEq, Repr

/-- The flags a group sets for its inside. -/
def GroupKind.flags : GroupKind → FlagSettings
  | .capture _ => []
  | .plain flags => flags

/-- A pattern as a tree. -/
inductive Ast where
  | empty
  /-- A flag setting `(?flags)`, which holds for the rest of the enclosing group. -/
  | flags (settings : FlagSettings)
  | literal (c : Char)
  | dot
  | assertion (kind : Assertion)
  | unicode (query : UnicodeQuery) (negated : Bool)
  | perl (kind : PerlClass) (negated : Bool)
  | bracketed (negated : Bool) (body : ClassNode)
  | repetition (op : Repetition) (sub : Ast)
  | group (kind : GroupKind) (sub : Ast)
  /-- Two or more alternatives. -/
  | alternation (branches : List Ast)
  /-- Two or more items in sequence. -/
  | concat (items : List Ast)
  deriving Repr

mutual

/-- How deeply a class nests: nested brackets, unions and set operations count. -/
def ClassNode.depth : ClassNode → Nat
  | .bracketed _ body => body.depth + 1
  | .union items => ClassNode.depthOfAll items + 1
  | .op _ lhs rhs => max lhs.depth rhs.depth + 1
  | .empty | .literal _ | .range _ _ | .ascii _ _ | .unicode _ _ | .perl _ _ => 0

/-- The greatest depth of a list of class items. -/
def ClassNode.depthOfAll : List ClassNode → Nat
  | [] => 0
  | c :: cs => max c.depth (ClassNode.depthOfAll cs)

end

mutual

/-- How deeply a pattern nests: groups, repetitions, alternations, concatenations and
bracketed classes count, with what nests inside the classes. -/
def Ast.depth : Ast → Nat
  | .bracketed _ body => body.depth + 1
  | .repetition _ sub => sub.depth + 1
  | .group _ sub => sub.depth + 1
  | .alternation branches => Ast.depthOfAll branches + 1
  | .concat items => Ast.depthOfAll items + 1
  | .empty | .flags _ | .literal _ | .dot | .assertion _ | .unicode _ _ | .perl _ _ => 0

/-- The greatest depth of a list of patterns. -/
def Ast.depthOfAll : List Ast → Nat
  | [] => 0
  | a :: as => max a.depth (Ast.depthOfAll as)

end

/-- How deeply a pattern may nest. -/
def nestLimit : Nat := 250

/-- A sequence of items as one tree: nothing, the one item, or a concatenation. -/
def Ast.sequence : List Ast → Ast
  | [] => .empty
  | [a] => a
  | items => .concat items

/-- Items side by side in a class as one node: nothing, the one item, or a union. -/
def ClassNode.sideBySide : List ClassNode → ClassNode
  | [] => .empty
  | [c] => c
  | items => .union items

end ContainerCpi.Regex
