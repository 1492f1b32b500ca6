/-! Binary floating-point numbers in exact arithmetic.
A finite number is a sign and `mantissa · 2 ^ exponent`; `nearest` rounds a quotient of natural
numbers to such a number, a half going to the even mantissa, and everything else is built on it. -/
namespace PromptWeave

/-- The shape of a format: how many binary digits a mantissa has and how far the exponent goes. -/
structure FloatFormat where
  precision : Nat
  minExponent : Int
  maxExponent : Int

namespace FloatFormat

def double : FloatFormat := ⟨53, -1074, 971⟩

def single : FloatFormat := ⟨24, -149, 104⟩

end FloatFormat

/-- A finite number. Zero has mantissa and exponent zero. -/
structure BinaryFloat where
  negative : Bool
  mantissa : Nat
  exponent : Int
deriving DecidableEq, Repr

namespace BinaryFloat

instance : Inhabited BinaryFloat := ⟨⟨false, 0, 0⟩⟩

def zero : BinaryFloat := ⟨false, 0, 0⟩

def isZero (x : BinaryFloat) : Bool := x.mantissa == 0

def withSign (negative : Bool) (x : BinaryFloat) : BinaryFloat := { x with negative := negative }

/-- The magnitude as a quotient of natural numbers. -/
def ratio (x : BinaryFloat) : Nat × Nat :=
  if x.exponent < 0 then (x.mantissa, Nat.pow 2 x.exponent.natAbs)
  else (x.mantissa * Nat.pow 2 x.exponent.natAbs, 1)

/-- The quotient of `num` by `den * 2 ^ e` as a quotient of natural numbers. -/
def scaled (num den : Nat) (e : Int) : Nat × Nat :=
  if e < 0 then (num * Nat.pow 2 e.natAbs, den) else (num, den * Nat.pow 2 e.natAbs)

/-- The quotient rounded to a whole number, a half going to the even one. -/
def roundHalfEven (num den : Nat) : Nat :=
  let q := num / den
  let r := num % den
  if 2 * r < den then q
  else if den < 2 * r then q + 1
  else if q % 2 = 0 then q else q + 1

/-- The exponent at which the quotient has as many binary digits as the format keeps. -/
def fitExponent (f : FloatFormat) (num den : Nat) : Int :=
  let guess : Int := (Nat.log2 num : Int) - (Nat.log2 den : Int) - (f.precision : Int)
  let (n, d) := scaled num den guess
  let e := if Nat.pow 2 f.precision * d ≤ n then guess + 1 else guess
  max e f.minExponent

/-- The number of the format nearest to `num / den`; none when it lies beyond the largest. -/
def nearest (f : FloatFormat) (num den : Nat) : Option BinaryFloat :=
  if num = 0 then some zero
  else
    let e := fitExponent f num den
    let (n, d) := scaled num den e
    let m := roundHalfEven n d
    let (m, e) := if m = Nat.pow 2 f.precision then (Nat.pow 2 (f.precision - 1), e + 1) else (m, e)
    if m = 0 then some zero
    else if f.maxExponent < e then none
    else some ⟨false, m, e⟩

def ofNat? (f : FloatFormat) (n : Nat) : Option BinaryFloat := nearest f n 1

def ofInt? (f : FloatFormat) (i : Int) : Option BinaryFloat :=
  (nearest f i.natAbs 1).map (withSign (decide (i < 0)))

/-- The same number rounded to another format. -/
def convert (f : FloatFormat) (x : BinaryFloat) : Option BinaryFloat :=
  let (n, d) := x.ratio
  (nearest f n d).map (withSign x.negative)

def mul (f : FloatFormat) (x y : BinaryFloat) : Option BinaryFloat :=
  let (a, b) := x.ratio
  let (c, d) := y.ratio
  (nearest f (a * c) (b * d)).map (withSign (x.negative != y.negative))

/-- The quotient of `x` by a number other than zero. -/
def div (f : FloatFormat) (x y : BinaryFloat) : Option BinaryFloat :=
  let (a, b) := x.ratio
  let (c, d) := y.ratio
  (nearest f (a * d) (b * c)).map (withSign (x.negative != y.negative))

/-- Numerators over the common denominator of two magnitudes, with their signs. -/
def compareKeys (x y : BinaryFloat) : Int × Int :=
  let (a, b) := x.ratio
  let (c, d) := y.ratio
  let left : Int := (a * d : Nat)
  let right : Int := (c * b : Nat)
  (if x.negative then -left else left, if y.negative then -right else right)

/-- Numeric comparison; the two zeros are equal. -/
def lt (x y : BinaryFloat) : Bool := let (a, b) := compareKeys x y; decide (a < b)

def eqv (x y : BinaryFloat) : Bool := let (a, b) := compareKeys x y; decide (a = b)

/-- Whether the number is whole. -/
def isWhole (x : BinaryFloat) : Bool :=
  let (n, d) := x.ratio
  n % d == 0

end BinaryFloat
end PromptWeave
