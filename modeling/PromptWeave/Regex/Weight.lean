import PromptWeave.Regex.Expr

/-! The memory that an automaton for a regular expression takes.
The automaton works on bytes, so a set of characters becomes sequences of byte ranges. Forward
these share their ends, backward their beginnings; repetitions are unrolled. -/
namespace PromptWeave
namespace Regex

/-! ### Characters as bytes -/

/-- The UTF-8 form of a character. -/
def utf8 (n : Nat) : List Nat :=
  if n < 0x80 then [n]
  else if n < 0x800 then [0xC0 + n / 64, 0x80 + n % 64]
  else if n < 0x10000 then [0xE0 + n / 4096, 0x80 + n / 64 % 64, 0x80 + n % 64]
  else [0xF0 + n / 262144, 0x80 + n / 4096 % 64, 0x80 + n / 64 % 64, 0x80 + n % 64]

/-- The end of the first piece, if `[lo, hi]` is no product of byte ranges and has to be cut. -/
def cutRange? (lo hi : Nat) : Option Nat :=
  if hi < 0x80 then none
  else match [0x7F, 0x7FF, 0xFFFF].find? fun b => lo ≤ b && b < hi with
    | some b => some b
    | none => [64, 4096, 262144].findSome? fun m =>
      if lo / m = hi / m then none
      else if lo % m ≠ 0 then some (lo / m * m + m - 1)
      else if hi % m ≠ m - 1 then some (hi / m * m - 1)
      else none

/-- Cuts a range into products of byte ranges. -/
def byteProducts : (fuel : Nat) → (lo hi : Nat) → List (List (Nat × Nat))
  | 0, lo, hi => [(utf8 lo).zip (utf8 hi)]
  | fuel + 1, lo, hi => match cutRange? lo hi with
    | some k => byteProducts fuel lo k ++ byteProducts fuel (k + 1) hi
    | none => [(utf8 lo).zip (utf8 hi)]

def byteSequences (s : RangeSet) : List (List (Nat × Nat)) :=
  s.flatMap fun (lo, hi) => byteProducts 16 lo hi

/-- Sequences with the same first range together: what follows that range in each. -/
def tails : List (List (Nat × Nat)) → List ((Nat × Nat) × List (List (Nat × Nat)))
  | [] => []
  | [] :: rest => tails rest
  | (r :: more) :: rest => match tails rest with
    | (q, group) :: groups => if q = r then (r, more :: group) :: groups else (r, [more]) :: (q, group) :: groups
    | [] => [(r, [more])]

/-- All groups of sequences that follow some beginning, the whole list being the first of them. -/
def subtrees : (fuel : Nat) → List (List (Nat × Nat)) → List (List (List (Nat × Nat)))
  | 0, _ => []
  | fuel + 1, seqs =>
    if (tails seqs).isEmpty then []
    else seqs :: (tails seqs).flatMap fun t => subtrees fuel t.2

/-! ### Sizes -/

/-- A state of the automaton. -/
def stateSize : Nat := 32

/-- A transition of a state that has several. -/
def transitionSize : Nat := 8

/-- A branch of a state that only branches. -/
def branchSize : Nat := 4

def totalBy {α : Type} (f : α → Nat) (l : List α) : Nat := l.foldl (fun n a => n + f a) 0

def forwardSize (s : RangeSet) : Nat :=
  stateSize + totalBy (fun node => stateSize + transitionSize * (tails node).length)
    (subtrees 5 (byteSequences s)).eraseDups

def backwardSize (s : RangeSet) : Nat :=
  let seqs := byteSequences s
  2 * stateSize + totalBy (fun node => stateSize * (tails node).length) (subtrees 5 seqs) +
    branchSize * seqs.length

def symbolSize (onBytes backward : Bool) (s : RangeSet) : Nat :=
  match s with
  | [] => stateSize
  | [(lo, hi)] =>
    if lo = hi then stateSize * (if onBytes then 1 else (utf8 lo).length)
    else if onBytes || hi < 128 then 2 * stateSize + transitionSize
    else if backward then backwardSize s else forwardSize s
  | s =>
    if onBytes || s.all (·.2 < 128) then 2 * stateSize + transitionSize * s.length
    else if backward then backwardSize s else forwardSize s

/-- `n` copies in a row. -/
def copies (n size : Nat) : Nat := if n = 0 then stateSize else n * size

/-- A repetition of an expression of a given size. -/
def repeatSize (nullable : Bool) (size min : Nat) : (max : Option Nat) → Nat
  | some max =>
    if min = 0 ∧ max = 1 then size + 2 * stateSize + 2 * branchSize
    else if min = max then copies min size
    else copies min size + stateSize + (max - min) * (size + stateSize + 2 * branchSize)
  | none =>
    if min = 0 then
      if nullable then size + 3 * stateSize + 4 * branchSize else size + stateSize + 2 * branchSize
    else min * size + stateSize + 2 * branchSize

namespace Expr

mutual
def size (onBytes backward : Bool) : Expr → Nat
  | .empty | .look _ => stateSize
  | .symbol s => symbolSize onBytes backward s
  | .capture e => size onBytes backward e + if backward then 0 else 2 * stateSize
  | .repeated e min max => repeatSize e.nullable (size onBytes backward e) min max
  | .concat es => sizeAll onBytes backward es
  | .alternatives es =>
    sizeAll onBytes backward es + 2 * stateSize + branchSize * es.length
def sizeAll (onBytes backward : Bool) : List Expr → Nat
  | [] => 0
  | e :: es => size onBytes backward e + sizeAll onBytes backward es
end

/-- The states that every automaton has. -/
def frameSize (backward : Bool) : Nat :=
  4 * stateSize + transitionSize + 2 * branchSize + if backward then 0 else 2 * stateSize

def sizeLimit : Nat := Nat.pow 2 20

/-- Whether the automata of both directions stay within the limit. -/
def fits (onBytes : Bool) (e : Expr) : Bool :=
  [false, true].all fun backward => frameSize backward + e.size onBytes backward ≤ sizeLimit

end Expr
end Regex
end PromptWeave
