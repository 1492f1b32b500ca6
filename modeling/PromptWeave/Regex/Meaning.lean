import PromptWeave.Regex.Expr
import PromptWeave.Regex.Syntax
import PromptWeave.Unicode.Folding

/-! From the syntax of a regular expression to what it matches.
Where case does not count, a set is widened before it is negated and before it is combined with
another. Where Unicode is switched off, classes hold ASCII characters only, and what would match
parts of characters has no meaning. -/
namespace PromptWeave
namespace Regex

structure Mode where
  ignoreCase : Bool
  multiLine : Bool
  dotAll : Bool
  unicode : Bool
  crlf : Bool

namespace Mode

def standard : Mode := ⟨false, false, false, true, false⟩

def apply (m : Mode) (fs : Flags) : Mode where
  ignoreCase := Flags.state fs .ignoreCase m.ignoreCase
  multiLine := Flags.state fs .multiLine m.multiLine
  dotAll := Flags.state fs .dotAll m.dotAll
  unicode := Flags.state fs .unicode m.unicode
  crlf := Flags.state fs .crlf m.crlf

def inGroup (m : Mode) : GroupKind → Mode
  | .plain fs => m.apply fs
  | .capture | .named _ => m

end Mode

/-! ### Sets -/

/-- With every character its variants of other case. -/
def fold (m : Mode) (s : RangeSet) : RangeSet :=
  if !m.ignoreCase then s
  else if m.unicode then
    RangeSet.ofList (s ++ (s.flatMap fun (lo, hi) => Unicode.rangeVariants lo hi).map fun n => (n, n))
  else
    let upper := RangeSet.inter s [(0x41, 0x5A)]
    let lower := RangeSet.inter s [(0x61, 0x7A)]
    RangeSet.ofList (s ++ upper.map (fun (lo, hi) => (lo + 32, hi + 32)) ++
      lower.map fun (lo, hi) => (lo - 32, hi - 32))

/-- The set or what is outside of it; without Unicode nothing but characters may be outside. -/
def negate (m : Mode) (negated : Bool) (s : RangeSet) : Option RangeSet :=
  if !negated then some s
  else if m.unicode then some (Unicode.complement s)
  else none

def AsciiKind.ranges : AsciiKind → RangeSet
  | .alnum => [(0x30, 0x39), (0x41, 0x5A), (0x61, 0x7A)]
  | .alpha => [(0x41, 0x5A), (0x61, 0x7A)]
  | .ascii => [(0, 0x7F)]
  | .blank => [(0x09, 0x09), (0x20, 0x20)]
  | .cntrl => [(0, 0x1F), (0x7F, 0x7F)]
  | .digit => [(0x30, 0x39)]
  | .graph => [(0x21, 0x7E)]
  | .lower => [(0x61, 0x7A)]
  | .print => [(0x20, 0x7E)]
  | .punct => [(0x21, 0x2F), (0x3A, 0x40), (0x5B, 0x60), (0x7B, 0x7E)]
  | .space => [(0x09, 0x0D), (0x20, 0x20)]
  | .upper => [(0x41, 0x5A)]
  | .word => [(0x30, 0x39), (0x41, 0x5A), (0x5F, 0x5F), (0x61, 0x7A)]
  | .xdigit => [(0x30, 0x39), (0x41, 0x46), (0x61, 0x66)]

def PerlKind.ranges (m : Mode) : PerlKind → RangeSet
  | .digit => if m.unicode then Unicode.digitRanges else AsciiKind.digit.ranges
  | .space => if m.unicode then Unicode.spaceRanges else AsciiKind.space.ranges
  | .word => if m.unicode then Unicode.wordRanges else AsciiKind.word.ranges

def Query.ranges (m : Mode) (q : Query) : Option RangeSet := do
  let s ← match q.value with
    | none => Unicode.named? q.name
    | some v => Unicode.valued? q.name v
  if m.unicode then negate m q.negated (fold m s) else none

def SetOp.apply (o : SetOp) (a b : RangeSet) : RangeSet :=
  match o with
  | .inter => RangeSet.inter a b
  | .diff => RangeSet.inter a (Unicode.complement b)
  | .symDiff =>
    RangeSet.union (RangeSet.inter a (Unicode.complement b)) (RangeSet.inter b (Unicode.complement a))

/-- The number of a character in a set. -/
def Literal.inSet (m : Mode) (l : Literal) : Option Nat :=
  if m.unicode || l.char.toNat < 128 then some l.char.toNat else none

namespace CharSet

mutual
def ranges (m : Mode) : CharSet → Option RangeSet
  | .literal l => (l.inSet m).map fun n => [(n, n)]
  | .range lo hi => do return [(← lo.inSet m, ← hi.inSet m)]
  | .ascii negated kind => negate m negated (fold m kind.ranges)
  | .query q => q.ranges m
  | .perl negated kind => negate m negated (kind.ranges m)
  | .union parts => (rangesAll m parts).map RangeSet.ofList
  | .op o lhs rhs => do
    let a ← ranges m lhs
    let b ← ranges m rhs
    return o.apply (fold m (RangeSet.ofList a)) (fold m (RangeSet.ofList b))
  | .bracket negated inner => do negate m negated (fold m (← ranges m inner))
def rangesAll (m : Mode) : List CharSet → Option RangeSet
  | [] => some []
  | s :: ss => do
    let a ← ranges m s
    return a ++ (← rangesAll m ss)
end

end CharSet

/-! ### Atoms and nodes -/

def dotRanges (m : Mode) : Option RangeSet :=
  if !m.unicode then none
  else if m.dotAll then some Unicode.allChars
  else if m.crlf then some (Unicode.complement [(10, 10), (13, 13)])
  else some (Unicode.complement [(10, 10)])

def Literal.ranges (m : Mode) (l : Literal) : Option RangeSet :=
  if !m.unicode && l.asByte && 128 ≤ l.char.toNat then none
  else some (fold m [(l.char.toNat, l.char.toNat)])

def Assertion.look (m : Mode) : Assertion → Look
  | .lineStart => if m.multiLine then .lineStart m.crlf else .start
  | .lineEnd => if m.multiLine then .lineEnd m.crlf else .end
  | .textStart => .start
  | .textEnd => .end
  | .word => .word m.unicode
  | .notWord => .notWord m.unicode
  | .wordStart => .wordStart m.unicode
  | .wordEnd => .wordEnd m.unicode
  | .wordStartHalf => .wordStartHalf m.unicode
  | .wordEndHalf => .wordEndHalf m.unicode

def Atom.expr (m : Mode) : Atom → Option Expr
  | .literal l => (l.ranges m).map .symbol
  | .dot => (dotRanges m).map .symbol
  | .assertion a => some (.look (a.look m))
  | .query q => (q.ranges m).map .symbol
  | .perl negated kind => (negate m negated (kind.ranges m)).map .symbol
  | .set s => (s.ranges m).map .symbol

def Quantifier.min : Quantifier → Nat
  | .optional | .star => 0
  | .plus => 1
  | .counted min _ => min

def Quantifier.max : Quantifier → Option Nat
  | .optional => some 1
  | .star | .plus => none
  | .counted _ max => max

/-- A sequence of expressions without the empty ones. -/
def Expr.sequence (es : List Expr) : Expr :=
  match es.filter fun e => !(match e with | .empty => true | _ => false) with
  | [] => .empty
  | [e] => e
  | es => .concat es

namespace Node

mutual
/-- What a node matches, and the mode behind it. -/
def expr (m : Mode) : Node → Option (Expr × Mode)
  | .blank _ => some (.empty, m)
  | .atom _ a => (a.expr m).map (·, m)
  | .flags _ fs => some (.empty, m.apply fs)
  | .repeated n _ q => do return ((← expr m n).1.ofCount q.min q.max, m)
  | .group _ kind branches => do
    let e := Expr.choice (← exprBranches (m.inGroup kind) branches).1
    match kind with
    | .plain _ => return (e, m)
    | .capture | .named _ => return (.capture e, m)
def exprAll (m : Mode) : List Node → Option (List Expr × Mode)
  | [] => some ([], m)
  | n :: ns => do
    let (e, m) ← expr m n
    let (es, m) ← exprAll m ns
    return (e :: es, m)
/-- A mode switched on in one branch holds in the next. -/
def exprBranches (m : Mode) : List (List Node) → Option (List Expr × Mode)
  | [] => some ([], m)
  | b :: bs => do
    let (es, m) ← exprAll m b
    let (rest, m) ← exprBranches m bs
    return (Expr.sequence es :: rest, m)
end

end Node

/-- What a whole pattern matches. -/
def meaning (branches : Branches) : Option Expr := do
  return Expr.choice (← Node.exprBranches .standard branches).1

end Regex
end PromptWeave
