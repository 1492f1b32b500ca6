import PromptWeave.Json.Raw
import PromptWeave.Text.Blank
import PromptWeave.Text.Hex

/-! Reading JSON text.
The digits of a number are taken as one whole number as long as it stays below `2 ^ 64`, further
digits only shift it, and the result is scaled by powers of ten in floating-point steps, each of
them rounded. So a number of many digits need not come out as the nearest one. -/
namespace PromptWeave
namespace Json

/-- Brackets may be nested this deep. -/
def maxDepth : Nat := 127

def isSpace (c : Char) : Bool := c == ' ' || c == '\n' || c == '\t' || c == '\r'

def skipSpace (cs : List Char) : List Char := cs.dropWhile isSpace

/-! ### Numbers -/

namespace Number

def wordLimit : Nat := Nat.pow 2 64

/-- Appends digits to `acc` while it stays below the limit. -/
def takeDigits (acc : Nat) : List Nat → Nat × List Nat
  | [] => (acc, [])
  | d :: ds => if acc * 10 + d < wordLimit then takeDigits (acc * 10 + d) ds else (acc, d :: ds)

/-- The power of ten as a number of double format. -/
def power (k : Nat) : BinaryFloat := (BinaryFloat.ofNat? .double (Nat.pow 10 k)).getD .zero

def maxPower : Nat := 308

/-- Divides by `10 ^ k`, in steps of `10 ^ 308` at most. -/
def divPower : Nat → Nat → BinaryFloat → BinaryFloat
  | 0, _, x => x
  | fuel + 1, k, x =>
    if k ≤ maxPower then (BinaryFloat.div .double x (power k)).getD .zero
    else if x.isZero then x
    else divPower fuel (k - maxPower) ((BinaryFloat.div .double x (power maxPower)).getD .zero)

/-- `digits · 10 ^ exponent`; none when it is too large. -/
def scale (digits : Nat) (exponent : Int) : Option BinaryFloat := do
  let x ← BinaryFloat.ofNat? .double digits
  if exponent < 0 then return divPower (exponent.natAbs + 1) exponent.natAbs x
  else if exponent.natAbs ≤ maxPower then BinaryFloat.mul .double x (power exponent.natAbs)
  else if x.isZero then return x
  else none

/-- A number as it was written. -/
structure Literal where
  negative : Bool
  whole : List Nat
  fraction : Option (List Nat)
  exponent : Option (Bool × List Nat)

/-- The exponent stops growing at this size. -/
def exponentLimit : Nat := Nat.pow 2 31

def Literal.toNumber (lit : Literal) : Option Number :=
  let (acc, dropped) := takeDigits 0 lit.whole
  match lit.fraction, lit.exponent, dropped with
  | none, none, [] =>
    if !lit.negative then some (.int acc)
    else if 0 < acc && acc ≤ Nat.pow 2 63 then some (.int (-(acc : Int)))
    else (scale acc 0).map fun x => .float (x.withSign true)
  | fraction, exponent, dropped =>
    let given := fraction.getD []
    let (acc, unused) := takeDigits acc given
    let shift : Int := (dropped.length : Int) - ((given.length - unused.length : Nat) : Int)
    let result := match exponent with
      | none => scale acc shift
      | some (down, ds) =>
        let e := ds.foldl (fun e d => e * 10 + d) 0
        if e < exponentLimit then scale acc (if down then shift - e else shift + e)
        else if acc ≠ 0 && !down then none
        else some .zero
    result.map fun x => .float (x.withSign lit.negative)

end Number

def digit? (c : Char) : Option Nat := if c.isDigit then some (c.toNat - '0'.toNat) else none

/-- The digits at the beginning, and the rest. -/
def digitRun : List Char → List Nat × List Char
  | [] => ([], [])
  | c :: cs => match digit? c with
    | some d => let (ds, rest) := digitRun cs; (d :: ds, rest)
    | none => ([], c :: cs)

def nonemptyRun (cs : List Char) : Except Fault (List Nat × List Char) :=
  match digitRun cs with
  | ([], _) => .error .malformed
  | (d :: ds, rest) => .ok (d :: ds, rest)

def wholePart (cs : List Char) : Except Fault (List Nat × List Char) := do
  let (ds, rest) ← nonemptyRun cs
  if ds.head? = some 0 && 1 < ds.length then throw .malformed
  return (ds, rest)

def fractionPart : List Char → Except Fault (Option (List Nat) × List Char)
  | '.' :: cs => do
    let (ds, rest) ← nonemptyRun cs
    return (some ds, rest)
  | cs => .ok (none, cs)

def exponentDigits (down : Bool) (cs : List Char) :
    Except Fault (Option (Bool × List Nat) × List Char) := do
  let (ds, rest) ← nonemptyRun cs
  return (some (down, ds), rest)

def exponentPart : List Char → Except Fault (Option (Bool × List Nat) × List Char)
  | c :: cs =>
    if c = 'e' ∨ c = 'E' then match cs with
      | '+' :: cs => exponentDigits false cs
      | '-' :: cs => exponentDigits true cs
      | cs => exponentDigits false cs
    else .ok (none, c :: cs)
  | [] => .ok (none, [])

def number (negative : Bool) (cs : List Char) : Except Fault (Raw × List Char) := do
  let (whole, cs) ← wholePart cs
  let (fraction, cs) ← fractionPart cs
  let (exponent, cs) ← exponentPart cs
  match (Number.Literal.mk negative whole fraction exponent).toNumber with
  | some n => return (.num n, cs)
  | none => return (.faulty .outOfRange, cs)

/-! ### Strings -/

/-- A piece of a string: a character, or a numbered escape. -/
inductive Piece
  | char (c : Char)
  | unit (n : Nat)

def hex4? (a b c d : Char) : Option Nat := do
  return (((← Text.hexValue? a) * 16 + (← Text.hexValue? b)) * 16 + (← Text.hexValue? c)) * 16 + (← Text.hexValue? d)

def simpleEscape? (c : Char) : Option Char :=
  if c = '"' ∨ c = '\\' ∨ c = '/' then some c
  else if c = 'n' then some '\n'
  else if c = 'r' then some '\r'
  else if c = 't' then some '\t'
  else if c = 'b' then some (Char.ofNat 8)
  else if c = 'f' then some (Char.ofNat 12)
  else none

/-- The pieces up to the closing quote, and the rest behind it. -/
def pieces : List Char → Except Fault (List Piece × List Char)
  | [] => .error .malformed
  | '"' :: rest => .ok ([], rest)
  | '\\' :: 'u' :: a :: b :: c :: d :: rest => match hex4? a b c d with
    | some n => do
      let (ps, rest) ← pieces rest
      return (.unit n :: ps, rest)
    | none => .error .malformed
  | '\\' :: e :: rest => match simpleEscape? e with
    | some c => do
      let (ps, rest) ← pieces rest
      return (.char c :: ps, rest)
    | none => .error .malformed
  | c :: rest =>
    if c.toNat < 32 then .error .malformed
    else do
      let (ps, rest) ← pieces rest
      return (.char c :: ps, rest)

def isHigh (n : Nat) : Bool := 0xD800 ≤ n && n < 0xDC00

def isLow (n : Nat) : Bool := 0xDC00 ≤ n && n < 0xE000

/-- Joins surrogate pairs; none when one half stands alone. -/
def assemble : List Piece → Option (List Char)
  | [] => some []
  | .char c :: ps => (assemble ps).map (c :: ·)
  | .unit hi :: .unit lo :: ps =>
    if isHigh hi then
      if isLow lo then
        (assemble ps).map (Char.ofNat (0x10000 + (hi - 0xD800) * 0x400 + (lo - 0xDC00)) :: ·)
      else none
    else if isLow hi then none
    else (assemble (.unit lo :: ps)).map (Char.ofNat hi :: ·)
  | .unit n :: ps =>
    if isHigh n || isLow n then none else (assemble ps).map (Char.ofNat n :: ·)

def string (cs : List Char) : Except Fault (Option String × List Char) := do
  let (ps, rest) ← pieces cs
  return ((assemble ps).map String.ofList, rest)

/-! ### Values -/

/-- A bracketed value inside `depth` brackets. -/
def bracketed (depth : Nat) (r : Raw) : Raw :=
  if depth < maxDepth then r else .faulty .tooDeep

def keyword (word : List Char) (r : Raw) (cs : List Char) : Except Fault (Raw × List Char) :=
  match Text.after? word cs with
  | some rest => .ok (r, rest)
  | none => .error .malformed

mutual
def rawValue : Nat → Nat → List Char → Except Fault (Raw × List Char)
  | 0, _, _ => .error .malformed
  | fuel + 1, depth, cs => match skipSpace cs with
    | [] => .error .malformed
    | c :: rest =>
      if c = '"' then do
        let (s, rest) ← string rest
        return ((s.map Raw.str).getD (.faulty .loneSurrogate), rest)
      else if c = '[' then
        match skipSpace rest with
        | ']' :: rest => .ok (bracketed depth (.arr []), rest)
        | rest => do
          let (items, rest) ← rawItems fuel (depth + 1) rest
          return (bracketed depth (.arr items), rest)
      else if c = '\x7b' then
        match skipSpace rest with
        | '\x7d' :: rest => .ok (bracketed depth (.obj []), rest)
        | rest => do
          let (fields, rest) ← rawFields fuel (depth + 1) rest
          return (bracketed depth (.obj fields), rest)
      else if c = 't' then keyword ['t', 'r', 'u', 'e'] (.bool true) (c :: rest)
      else if c = 'f' then keyword ['f', 'a', 'l', 's', 'e'] (.bool false) (c :: rest)
      else if c = 'n' then keyword ['n', 'u', 'l', 'l'] .null (c :: rest)
      else if c = '-' then number true rest
      else number false (c :: rest)
def rawItems : Nat → Nat → List Char → Except Fault (List Raw × List Char)
  | 0, _, _ => .error .malformed
  | fuel + 1, depth, cs => do
    let (r, rest) ← rawValue fuel depth cs
    match skipSpace rest with
    | ']' :: rest => return ([r], rest)
    | ',' :: rest =>
      let (rs, rest) ← rawItems fuel depth rest
      return (r :: rs, rest)
    | _ => throw .malformed
def rawFields : Nat → Nat → List Char → Except Fault (List (Option String × Raw) × List Char)
  | 0, _, _ => .error .malformed
  | fuel + 1, depth, cs => do
    match skipSpace cs with
    | '"' :: rest =>
      let (key, rest) ← string rest
      match skipSpace rest with
      | ':' :: rest =>
        let (r, rest) ← rawValue fuel depth rest
        match skipSpace rest with
        | '\x7d' :: rest => return ([(key, r)], rest)
        | ',' :: rest =>
          let (rs, rest) ← rawFields fuel depth rest
          return ((key, r) :: rs, rest)
        | _ => throw .malformed
      | _ => throw .malformed
    | _ => throw .malformed
end

def rawOfChars (cs : List Char) : Except Fault Raw := do
  let (r, rest) ← rawValue (2 * cs.length + 2) 0 cs
  if (skipSpace rest).isEmpty then return r else throw .malformed

/-- Reads a whole text as a raw tree. -/
def raw (text : String) : Except Fault Raw := rawOfChars text.toList

/-- Reads a whole text as a value. -/
def read (text : String) : Except Fault Json := do (← raw text).value

end Json
end PromptWeave
