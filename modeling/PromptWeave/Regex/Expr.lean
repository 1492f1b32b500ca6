import PromptWeave.Unicode.Named

/-! Regular expressions and what they match.
The symbols of a subject are numbers: those of its characters or its bytes. An expression moves
marks on the places between symbols: to each place where a match that began at a marked place
can end. -/
namespace PromptWeave
namespace Regex

/-- A condition on the symbols around a place. -/
inductive Look
  | start
  | end
  | lineStart (crlf : Bool)
  | lineEnd (crlf : Bool)
  | word (unicode : Bool)
  | notWord (unicode : Bool)
  | wordStart (unicode : Bool)
  | wordEnd (unicode : Bool)
  | wordStartHalf (unicode : Bool)
  | wordEndHalf (unicode : Bool)
deriving DecidableEq, Repr

inductive Expr
  | empty
  | symbol (s : RangeSet)
  | look (l : Look)
  | capture (e : Expr)
  | repeated (e : Expr) (min : Nat) (max : Option Nat)
  | concat (es : List Expr)
  | alternatives (es : List Expr)

namespace Look

def asciiWord : RangeSet := [(0x30, 0x39), (0x41, 0x5A), (0x5F, 0x5F), (0x61, 0x7A)]

def isWord (unicode : Bool) (n : Nat) : Bool :=
  if n < 128 || !unicode then asciiWord.contains n else Unicode.wordRanges.contains n

def lineFeed : Nat := 10

def carriageReturn : Nat := 13

/-- Whether the condition holds between two symbols, of which either may be missing. -/
def holds (l : Look) (before after : Option Nat) : Bool :=
  match l with
  | .start => before.isNone
  | .end => after.isNone
  | .lineStart false => before.isNone || before == some lineFeed
  | .lineEnd false => after.isNone || after == some lineFeed
  | .lineStart true => before.isNone || before == some lineFeed ||
    (before == some carriageReturn && after != some lineFeed)
  | .lineEnd true => after.isNone || after == some carriageReturn ||
    (after == some lineFeed && before != some carriageReturn)
  | .word u => before.any (isWord u) != after.any (isWord u)
  | .notWord u => before.any (isWord u) == after.any (isWord u)
  | .wordStart u => !before.any (isWord u) && after.any (isWord u)
  | .wordEnd u => before.any (isWord u) && !after.any (isWord u)
  | .wordStartHalf u => !before.any (isWord u)
  | .wordEndHalf u => !after.any (isWord u)

end Look

/-- One mark for the place before each symbol and one for the end. -/
abbrev Marks := List Bool

namespace Marks

def none (subject : List Nat) : Marks := List.replicate (subject.length + 1) false

def all (subject : List Nat) : Marks := List.replicate (subject.length + 1) true

def union (a b : Marks) : Marks := List.zipWith (· || ·) a b

/-- Moves the marks in front of symbols of a set behind them, the first place apart. -/
def step (s : RangeSet) : List Nat → Marks → Marks
  | c :: cs, m :: ms => (m && s.contains c) :: step s cs ms
  | _, _ => []

/-- Moves the marks in front of symbols of a set behind them. -/
def advance (s : RangeSet) (subject : List Nat) (ms : Marks) : Marks := false :: step s subject ms

/-- Keeps the marks where a condition holds. -/
def keep (l : Look) (before : Option Nat) : List Nat → Marks → Marks
  | c :: cs, m :: ms => (m && l.holds before (some c)) :: keep l (some c) cs ms
  | [], m :: _ => [m && l.holds before .none]
  | _, [] => []

/-- Applies `f` exactly `n` times, or until nothing changes. -/
def times (f : Marks → Marks) : Nat → Marks → Marks
  | 0, ms => ms
  | n + 1, ms => if f ms = ms then ms else times f n (f ms)

/-- Applies `f` up to `n` times and joins the results, until nothing changes. -/
def upTo (f : Marks → Marks) : Nat → Marks → Marks
  | 0, ms => ms
  | n + 1, ms => if union ms (f ms) = ms then ms else upTo f n (union ms (f ms))

end Marks

namespace Expr

mutual
/-- The places where a match can end that begins at one of the marked places. -/
def run (subject : List Nat) : Expr → Marks → Marks
  | .empty, ms => ms
  | .symbol s, ms => Marks.advance s subject ms
  | .look l, ms => Marks.keep l none subject ms
  | .capture e, ms => run subject e ms
  | .repeated e min max, ms =>
    let first := Marks.times (fun ms => run subject e ms) min ms
    match max with
    | none => Marks.upTo (fun ms => run subject e ms) (subject.length + 1) first
    | some max => Marks.upTo (fun ms => run subject e ms) (max - min) first
  | .concat es, ms => runAll subject es ms
  | .alternatives es, ms => runAny subject es ms
def runAll (subject : List Nat) : List Expr → Marks → Marks
  | [], ms => ms
  | e :: es, ms => runAll subject es (run subject e ms)
def runAny (subject : List Nat) : List Expr → Marks → Marks
  | [], _ => Marks.none subject
  | e :: es, ms => Marks.union (run subject e ms) (runAny subject es ms)
end

/-- Whether some part of the subject matches. -/
def occursIn (e : Expr) (subject : List Nat) : Bool :=
  (e.run subject (Marks.all subject)).any id

mutual
/-- Whether the expression can match without taking a symbol, conditions apart. -/
def nullable : Expr → Bool
  | .empty | .look _ => true
  | .symbol _ => false
  | .capture e => nullable e
  | .repeated e min _ => min == 0 || nullable e
  | .concat es => allNullable es
  | .alternatives es => anyNullable es
def allNullable : List Expr → Bool
  | [] => true
  | e :: es => nullable e && allNullable es
def anyNullable : List Expr → Bool
  | [] => false
  | e :: es => nullable e || anyNullable es
end

mutual
/-- Whether the expression never takes a symbol. -/
def weightless : Expr → Bool
  | .empty | .look _ => true
  | .symbol _ => false
  | .capture e => weightless e
  | .repeated e _ max => max == some 0 || weightless e
  | .concat es => allWeightless es
  | .alternatives es => allWeightless es
def allWeightless : List Expr → Bool
  | [] => true
  | e :: es => weightless e && allWeightless es
end

/-- A repetition. What takes no symbol is repeated once at most. -/
def ofCount (e : Expr) (min : Nat) (max : Option Nat) : Expr :=
  let (min, max) := if e.weightless then (Nat.min min 1, some (Nat.min (max.getD 1) 1)) else (min, max)
  if min = 0 ∧ max = some 0 then .empty
  else if min = 1 ∧ max = some 1 then e
  else .repeated e min max

def symbols? : List Expr → Option RangeSet
  | [] => some []
  | .symbol s :: es => (symbols? es).map (s ++ ·)
  | _ => none

/-- A choice; a choice of single symbols is a single symbol. -/
def choice (es : List Expr) : Expr :=
  match es with
  | [e] => e
  | es => match symbols? es with
    | some s => .symbol (RangeSet.ofList s)
    | none => .alternatives es

end Expr
end Regex
end PromptWeave
