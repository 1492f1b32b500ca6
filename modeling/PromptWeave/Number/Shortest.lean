import PromptWeave.Number.BinaryFloat

/-! The shortest decimal text of a binary floating-point number.
Of the decimals that read back to the number the ones with fewest digits are taken, and of those
the nearest; of two equally near ones the even one. -/
namespace PromptWeave
namespace Shortest

/-- `coefficient · 10 ^ exponent` -/
structure Decimal where
  coefficient : Nat
  exponent : Int
deriving DecidableEq, Repr

namespace Decimal

def ratio (d : Decimal) : Nat × Nat :=
  if d.exponent < 0 then (d.coefficient, Nat.pow 10 d.exponent.natAbs)
  else (d.coefficient * Nat.pow 10 d.exponent.natAbs, 1)

def readsBack (f : FloatFormat) (x : BinaryFloat) (d : Decimal) : Bool :=
  let (n, den) := d.ratio
  BinaryFloat.nearest f n den == some (x.withSign false)

end Decimal

/-- How often a number below one has to be multiplied by ten to reach one. -/
def belowOne : Nat → Nat → Nat → Nat
  | 0, _, _ => 0
  | fuel + 1, num, den => if den ≤ num then 0 else belowOne fuel (num * 10) den + 1

/-- The decimal exponent of the first digit of a positive quotient. -/
def firstExponent (num den : Nat) : Int :=
  if den ≤ num then ((Nat.toDigits 10 (num / den)).length : Int) - 1
  else -(belowOne 400 num den : Int)

/-- The quotient divided by `10 ^ s`, as a quotient. -/
def overPower (num den : Nat) (s : Int) : Nat × Nat :=
  if s < 0 then (num * Nat.pow 10 s.natAbs, den) else (num, den * Nat.pow 10 s.natAbs)

/-- The decimal with last digit at `10 ^ s` that reads back to `x` and lies nearest, if any does. -/
def onGrid (f : FloatFormat) (x : BinaryFloat) (s : Int) : Option Decimal :=
  let (num, den) := x.ratio
  let (n, d) := overPower num den s
  let q := n / d
  let r := n % d
  let low : Decimal := ⟨q, s⟩
  let high : Decimal := ⟨q + 1, s⟩
  let lowFits := decide (q ≠ 0) && low.readsBack f x
  let highFits := high.readsBack f x
  if lowFits && highFits then
    if 2 * r < d then some low
    else if d < 2 * r then some high
    else if q % 2 = 0 then some low else some high
  else if lowFits then some low
  else if highFits then some high
  else none

/-- The number itself, written out in full. -/
def exact (x : BinaryFloat) : Decimal :=
  if x.exponent < 0 then ⟨x.mantissa * Nat.pow 5 x.exponent.natAbs, x.exponent⟩
  else ⟨x.mantissa * Nat.pow 2 x.exponent.natAbs, 0⟩

/-- Tries `1`, `2`, … digits, the first at `10 ^ d`. -/
def search (f : FloatFormat) (x : BinaryFloat) (d : Int) : Nat → Nat → Decimal
  | 0, _ => exact x
  | fuel + 1, digits => (onGrid f x (d - digits)).getD (search f x d fuel (digits + 1))

/-- The shortest decimal that reads back to the magnitude of `x`. -/
def decimal (f : FloatFormat) (x : BinaryFloat) : Decimal :=
  let (num, den) := x.ratio
  search f x (firstExponent num den) 17 0

/-- Digits without trailing zeros, and the decimal exponent of the first of them. -/
def digits (d : Decimal) : List Char × Int :=
  let all := Nat.toDigits 10 d.coefficient
  let kept := (all.reverse.dropWhile (· == '0')).reverse
  (kept, d.exponent + (all.length : Int) - 1)

/-- Where positional notation ends, for numbers in texts: a number is written out from
`10 ^ lowest` up to, but not including, `10 ^ highest`. -/
structure Style where
  lowest : Int
  highest : Int

/-- Numbers of double format are written positionally from `0.00001` on and below `10 ^ 16`. -/
def Style.double : Style := ⟨-5, 16⟩

/-- Numbers of single format are written positionally from `0.000001` on and below `10 ^ 13`. -/
def Style.single : Style := ⟨-6, 13⟩

def zeros (n : Nat) : List Char := List.replicate n '0'

/-- Positional texts have at least one digit behind the point; an exponent has its sign. -/
def layout (style : Style) (ds : List Char) (d : Int) : List Char :=
  if style.lowest ≤ d && d < style.highest then
    if d < 0 then '0' :: '.' :: zeros (d.natAbs - 1) ++ ds
    else
      let whole := d.natAbs + 1
      if ds.length ≤ whole then ds ++ zeros (whole - ds.length) ++ ['.', '0']
      else ds.take whole ++ '.' :: ds.drop whole
  else
    let tail := match ds with
      | [] => []
      | [c] => [c]
      | c :: rest => c :: '.' :: rest
    tail ++ 'e' :: (if d < 0 then '-' else '+') :: Nat.toDigits 10 d.natAbs

/-- The text of a number of the format. -/
def text (style : Style) (f : FloatFormat) (x : BinaryFloat) : List Char :=
  let body :=
    if x.isZero then ['0', '.', '0']
    else
      let (ds, d) := digits (decimal f x)
      layout style ds d
  if x.negative then '-' :: body else body

end Shortest
end PromptWeave
