import PromptWeave.Text.Blank

/-! Syntax of regular expressions.
A pattern is a list of branches, a branch a list of nodes. Nodes keep the text that they were
written with, so a pattern can be written out again as it was. -/
namespace PromptWeave
namespace Regex

/-- A place that a match can be tied to without taking a character. -/
inductive Assertion
  | lineStart
  | lineEnd
  | textStart
  | textEnd
  | word
  | notWord
  | wordStart
  | wordEnd
  | wordStartHalf
  | wordEndHalf
deriving DecidableEq, Repr

inductive PerlKind
  | digit
  | space
  | word
deriving DecidableEq, Repr

inductive AsciiKind
  | alnum
  | alpha
  | ascii
  | blank
  | cntrl
  | digit
  | graph
  | lower
  | print
  | punct
  | space
  | upper
  | word
  | xdigit
deriving DecidableEq, Repr

/-- A question about a character: a property, or a property and its value. -/
structure Query where
  negated : Bool
  name : List Char
  value : Option (List Char)
deriving DecidableEq, Repr

/-- A character. One written as two hexadecimal digits is a byte where Unicode is switched off. -/
structure Literal where
  char : Char
  asByte : Bool
deriving DecidableEq, Repr

inductive SetOp
  | inter
  | diff
  | symDiff
deriving DecidableEq, Repr

/-- What stands between brackets. -/
inductive CharSet
  | literal (l : Literal)
  | range (lo hi : Literal)
  | ascii (negated : Bool) (kind : AsciiKind)
  | query (q : Query)
  | perl (negated : Bool) (kind : PerlKind)
  | union (parts : List CharSet)
  | op (o : SetOp) (lhs rhs : CharSet)
  | bracket (negated : Bool) (inner : CharSet)

inductive Atom
  | literal (l : Literal)
  | dot
  | assertion (a : Assertion)
  | query (q : Query)
  | perl (negated : Bool) (kind : PerlKind)
  | set (s : CharSet)

inductive Flag
  | ignoreCase
  | multiLine
  | dotAll
  | swapGreed
  | unicode
  | crlf
  | verbose
deriving DecidableEq, Repr

/-- Flags in the order written, each switched on or off. -/
abbrev Flags := List (Flag × Bool)

/-- The state of a flag behind a list of flags. -/
def Flags.state (fs : Flags) (f : Flag) (before : Bool) : Bool := (fs.lookup f).getD before

inductive Quantifier
  | optional
  | star
  | plus
  | counted (min : Nat) (max : Option Nat)
deriving DecidableEq, Repr

inductive GroupKind
  | capture
  | named (name : List Char)
  | plain (flags : Flags)
deriving DecidableEq, Repr

/-- A part of a branch. A group is written as its opener, its branches and a parenthesis. -/
inductive Node
  | blank (source : List Char)
  | atom (source : List Char) (a : Atom)
  | flags (source : List Char) (f : Flags)
  | repeated (node : Node) (source : List Char) (q : Quantifier)
  | group (opener : List Char) (kind : GroupKind) (branches : List (List Node))

abbrev Branches := List (List Node)

namespace Node

mutual
/-- The text of a node. -/
def source : Node → List Char
  | .blank s | .atom s _ | .flags s _ => s
  | .repeated n s _ => source n ++ s
  | .group opener _ branches => opener ++ sourceBranches branches ++ [')']
def sourceAll : List Node → List Char
  | [] => []
  | n :: ns => source n ++ sourceAll ns
/-- Branches are parted by bars. -/
def sourceBranches : List (List Node) → List Char
  | [] => []
  | [b] => sourceAll b
  | b :: bs => sourceAll b ++ '|' :: sourceBranches bs
end

def isBlank : Node → Bool
  | .blank _ => true
  | _ => false

end Node

/-! ### Nesting -/

namespace CharSet

mutual
/-- How deep a set is nested; operators, brackets and lists of several parts count. -/
def nesting : CharSet → Nat
  | .union parts => nestingAll parts + if 2 ≤ parts.length then 1 else 0
  | .op _ lhs rhs => max (nesting lhs) (nesting rhs) + 1
  | .bracket _ inner => nesting inner + 1
  | _ => 0
def nestingAll : List CharSet → Nat
  | [] => 0
  | s :: ss => max (nesting s) (nestingAll ss)
end

end CharSet

namespace Node

mutual
/-- How deep a node is nested; groups, quantifiers, sequences and alternatives count. -/
def nesting : Node → Nat
  | .atom _ (.set s) => s.nesting
  | .repeated n _ _ => nesting n + 1
  | .group _ _ branches => nestingBranches branches + (if 2 ≤ branches.length then 1 else 0) + 1
  | _ => 0
def nestingAll : List Node → Nat
  | [] => 0
  | n :: ns => max (nesting n) (nestingAll ns)
def nestingBranches : List (List Node) → Nat
  | [] => 0
  | b :: bs =>
    max (nestingAll b + if 2 ≤ (b.filter fun n => !n.isBlank).length then 1 else 0)
      (nestingBranches bs)
end

end Node

/-- How deep a whole pattern is nested. -/
def nesting (branches : Branches) : Nat :=
  Node.nestingBranches branches + if 2 ≤ branches.length then 1 else 0

end Regex
end PromptWeave
