import PromptWeave.Json.Basic

/-! JSON values compared by what they mean: a whole number equals the same number with a point. -/
namespace PromptWeave
namespace Json

namespace Number

/-- The number as a quotient. -/
def quotient : Number → Int × Nat
  | .int i => (i, 1)
  | .float x =>
    let (n, d) := x.ratio
    (if x.negative then -(n : Int) else n, d)

def lt (a b : Number) : Bool :=
  let (n, d) := a.quotient
  let (m, e) := b.quotient
  decide (n * e < m * d)

def same (a b : Number) : Bool :=
  let (n, d) := a.quotient
  let (m, e) := b.quotient
  decide (n * e = m * d)

def isWhole : Number → Bool
  | .int _ => true
  | .float x => x.isWhole

/-- The whole number that is meant, if it is one and not below zero. -/
def count? (a : Number) : Option Nat :=
  let (n, d) := a.quotient
  if n < 0 || n.natAbs % d != 0 then none else some (n.natAbs / d)

/-- The number as it is written, as a quotient. -/
def written : Number → Int × Nat
  | .int i => (i, 1)
  | .float x =>
    if x.isZero then (0, 1)
    else
      let (n, d) := (Shortest.decimal .double x).ratio
      (if x.negative then -(n : Int) else n, d)

/-- Whether `a` is a whole multiple of `b`, both taken as they are written. -/
def isMultipleOf (a b : Number) : Bool :=
  let (n, d) := a.written
  let (m, e) := b.written
  decide (n * e % (m * d) = 0)

end Number

mutual
def same : Json → Json → Bool
  | .null, .null => true
  | .bool a, .bool b => a == b
  | .num a, .num b => a.same b
  | .str a, .str b => a == b
  | .arr as, .arr bs => sameItems as bs
  | .obj as, .obj bs => sameFields as bs
  | _, _ => false
def sameItems : List Json → List Json → Bool
  | [], [] => true
  | a :: as, b :: bs => same a b && sameItems as bs
  | _, _ => false
def sameFields : List (String × Json) → List (String × Json) → Bool
  | [], [] => true
  | (k, a) :: as, (l, b) :: bs => k == l && same a b && sameFields as bs
  | _, _ => false
end

/-- Whether two of the values are the same. -/
def anySame : List Json → Bool
  | [] => false
  | v :: vs => vs.any (same v) || anySame vs

mutual
/-- How many values there are inside a value, itself included. -/
def size : Json → Nat
  | .arr items => sizeItems items + 1
  | .obj fields => sizeFields fields + 1
  | _ => 1
def sizeItems : List Json → Nat
  | [] => 0
  | v :: vs => size v + sizeItems vs
def sizeFields : List (String × Json) → Nat
  | [] => 0
  | (_, v) :: rest => size v + sizeFields rest
end

end Json
end PromptWeave
