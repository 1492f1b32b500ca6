import PromptWeave.Regex.Syntax
import PromptWeave.Text.Hex

/-! Escapes, flags and counts of regular expressions.
In verbose mode blanks and comments do not count, not even inside an escape or a count. -/
namespace PromptWeave
namespace Regex

/-! ### Blanks and comments -/

def dropBlanks : (inComment : Bool) → List Char → List Char
  | _, [] => []
  | true, c :: cs => dropBlanks (c != '\n') cs
  | false, c :: cs =>
    if Text.isBlank c then dropBlanks false cs
    else if c = '#' then dropBlanks true cs
    else c :: cs

/-- Drops the blanks and comments in front where they do not count. -/
def skip (verbose : Bool) (cs : List Char) : List Char := if verbose then dropBlanks false cs else cs

/-- The part of `before` that comes before its end `after`. -/
def consumed (before after : List Char) : List Char := before.take (before.length - after.length)

/-! ### Characters by number -/

/-- The character with a number; surrogates are not characters. -/
def charOfNumber? (n : Nat) : Option Char := if n.isValidChar then some (Char.ofNat n) else none

/-- Exactly `n` hexadecimal digits. -/
def fixedHex (verbose : Bool) : (n acc : Nat) → List Char → Option (Nat × List Char)
  | 0, acc, cs => some (acc, cs)
  | _ + 1, _, [] => none
  | n + 1, acc, c :: cs => do fixedHex verbose n (acc * 16 + (← Text.hexValue? c)) (skip verbose cs)

/-- Hexadecimal digits up to a closing brace. -/
def bracedHex (verbose : Bool) : (fuel acc : Nat) → List Char → Option (Nat × List Char)
  | 0, _, _ | _ + 1, _, [] => none
  | fuel + 1, acc, c :: cs =>
    if c = '\x7d' then some (acc, skip verbose cs)
    else do bracedHex verbose fuel (acc * 16 + (← Text.hexValue? c)) (skip verbose cs)

def hexLiteral (verbose : Bool) (digits : Nat) (cs : List Char) : Option (Atom × List Char) := do
  match skip verbose cs with
  | '\x7b' :: cs => match skip verbose cs with
    | '\x7d' :: _ => none
    | cs =>
      let (n, rest) ← bracedHex verbose (cs.length + 1) 0 cs
      return (.literal ⟨← charOfNumber? n, false⟩, rest)
  | cs =>
    let (n, rest) ← fixedHex verbose digits 0 cs
    return (.literal ⟨← charOfNumber? n, digits = 2⟩, rest)

/-! ### Properties -/

/-- Characters up to a closing brace. -/
def bracedName (verbose : Bool) : (fuel : Nat) → List Char → Option (List Char × List Char)
  | 0, _ | _ + 1, [] => none
  | fuel + 1, c :: cs =>
    if c = '\x7d' then some ([], cs)
    else do
      let (name, rest) ← bracedName verbose fuel (skip verbose cs)
      return (c :: name, rest)

/-- Cuts at the first `!=`. -/
def cutUnequal? : List Char → Option (List Char × List Char)
  | '!' :: '=' :: cs => some ([], cs)
  | [] => none
  | c :: cs => (cutUnequal? cs).map fun (a, b) => (c :: a, b)

def queryOfName (negated : Bool) (name : List Char) : Query :=
  match cutUnequal? name, Text.cutAt? ':' name, Text.cutAt? '=' name with
  | some (n, v), _, _ => ⟨!negated, n, some v⟩
  | none, some (n, v), _ | none, none, some (n, v) => ⟨negated, n, some v⟩
  | none, none, none => ⟨negated, name, none⟩

def property (verbose negated : Bool) (cs : List Char) : Option (Query × List Char) :=
  match skip verbose cs with
  | [] | '\\' :: _ => none
  | '\x7b' :: cs => do
    let (name, rest) ← bracedName verbose (cs.length + 1) (skip verbose cs)
    return (queryOfName negated name, rest)
  | c :: cs => some (⟨negated, [c], none⟩, skip verbose cs)

/-! ### Escapes -/

def isEdgeName (c : Char) : Bool := ('a' ≤ c && c ≤ 'z') || ('A' ≤ c && c ≤ 'Z') || c == '-'

/-- The letters of a name in braces, and what follows. -/
def edgeName (verbose : Bool) : (fuel : Nat) → List Char → List Char × List Char
  | fuel + 1, c :: cs =>
    if isEdgeName c then
      let (name, rest) := edgeName verbose fuel (skip verbose cs)
      (c :: name, rest)
    else ([], c :: cs)
  | _, cs => ([], cs)

def edgeOfName? (name : List Char) : Option Assertion :=
  if name = ['s', 't', 'a', 'r', 't'] then some .wordStart
  else if name = ['e', 'n', 'd'] then some .wordEnd
  else if name = ['s', 't', 'a', 'r', 't', '-', 'h', 'a', 'l', 'f'] then some .wordStartHalf
  else if name = ['e', 'n', 'd', '-', 'h', 'a', 'l', 'f'] then some .wordEndHalf
  else none

/-- What follows `\b`: a name in braces makes it one kind of word edge. -/
def wordEdge (verbose : Bool) (cs : List Char) : Option (Atom × List Char) :=
  match cs with
  | '\x7b' :: inner => match skip verbose inner with
    | [] => none
    | c :: rest =>
      if isEdgeName c then
        match edgeName verbose (cs.length + 1) (c :: rest) with
        | (name, '\x7d' :: rest) => (edgeOfName? name).map fun a => (.assertion a, rest)
        | _ => none
      else some (.assertion .word, cs)
  | _ => some (.assertion .word, cs)

def controlEscape? (c : Char) : Option Char :=
  if c = 'a' then some (Char.ofNat 7)
  else if c = 'f' then some (Char.ofNat 12)
  else if c = 't' then some '\t'
  else if c = 'n' then some '\n'
  else if c = 'r' then some '\r'
  else if c = 'v' then some (Char.ofNat 11)
  else none

def assertionEscape? (c : Char) : Option Assertion :=
  if c = 'A' then some .textStart
  else if c = 'z' then some .textEnd
  else if c = 'B' then some .notWord
  else if c = '<' then some .wordStart
  else if c = '>' then some .wordEnd
  else none

def perlEscape? (c : Char) : Option (Bool × PerlKind) :=
  if c = 'd' then some (false, .digit)
  else if c = 'D' then some (true, .digit)
  else if c = 's' then some (false, .space)
  else if c = 'S' then some (true, .space)
  else if c = 'w' then some (false, .word)
  else if c = 'W' then some (true, .word)
  else none

/-- ASCII characters other than letters, digits and angle brackets stand for themselves. -/
def escapesItself (c : Char) : Bool :=
  c.toNat < 128 && !c.isAlphanum && c != '<' && c != '>'

/-- What follows a backslash. -/
def escape (verbose : Bool) : List Char → Option (Atom × List Char)
  | [] => none
  | c :: cs =>
    if c = 'x' then hexLiteral verbose 2 cs
    else if c = 'u' then hexLiteral verbose 4 cs
    else if c = 'U' then hexLiteral verbose 8 cs
    else if c = 'p' ∨ c = 'P' then do
      let (q, rest) ← property verbose (c = 'P') cs
      return (.query q, rest)
    else if c = 'b' then wordEdge verbose cs
    else if escapesItself c then some (.literal ⟨c, false⟩, cs)
    else match perlEscape? c, controlEscape? c, assertionEscape? c with
      | some (negated, kind), _, _ => some (.perl negated kind, cs)
      | _, some d, _ => some (.literal ⟨d, false⟩, cs)
      | _, _, some a => some (.assertion a, cs)
      | none, none, none => none

/-- The first atom of a text, brackets apart. -/
def simpleAtom (verbose : Bool) : List Char → Option (Atom × List Char)
  | [] => none
  | '\\' :: cs => escape verbose cs
  | '.' :: cs => some (.dot, cs)
  | '^' :: cs => some (.assertion .lineStart, cs)
  | '$' :: cs => some (.assertion .lineEnd, cs)
  | c :: cs => some (.literal ⟨c, false⟩, cs)

/-! ### Counts -/

def countLimit : Nat := Nat.pow 2 32

def countDigits (verbose : Bool) : (fuel : Nat) → List Char → List Char × List Char
  | fuel + 1, c :: cs =>
    if c.isDigit then
      let (ds, rest) := countDigits verbose fuel (skip verbose cs)
      (c :: ds, rest)
    else ([], c :: cs)
  | _, cs => ([], cs)

/-- A decimal number; blanks around it do not count. -/
def count (verbose : Bool) (cs : List Char) : Option (Nat × List Char) :=
  let cs := Text.trimStart cs
  match countDigits verbose (cs.length + 1) cs with
  | ([], _) => none
  | (ds, rest) =>
    let n := ds.foldl (fun n c => n * 10 + (c.toNat - '0'.toNat)) 0
    if n < countLimit then some (n, Text.trimStart rest) else none

/-- The bounds of a count, behind the least number. -/
def countBounds (verbose : Bool) (min : Nat) : List Char → Option (Quantifier × List Char)
  | ',' :: cs => match skip verbose cs with
    | '\x7d' :: rest => some (.counted min none, '\x7d' :: rest)
    | cs => do
      let (max, rest) ← count verbose cs
      if min ≤ max then return (.counted min (some max), rest) else none
  | cs => some (.counted min (some min), cs)

/-- Drops the mark of a lazy quantifier. -/
def dropLazy : List Char → List Char
  | '?' :: cs => cs
  | cs => cs

/-- A counted repetition, behind its opening brace. -/
def counted (verbose : Bool) (cs : List Char) : Option (Quantifier × List Char) := do
  let (min, cs) ← count verbose (skip verbose cs)
  match ← countBounds verbose min cs with
  | (q, '\x7d' :: rest) => return (q, dropLazy (skip verbose rest))
  | _ => none

/-- A quantifier that begins with `c`. -/
def quantifier (verbose : Bool) (c : Char) (cs : List Char) : Option (Quantifier × List Char) :=
  if c = '?' then some (.optional, dropLazy cs)
  else if c = '*' then some (.star, dropLazy cs)
  else if c = '+' then some (.plus, dropLazy cs)
  else counted verbose cs

/-! ### Flags -/

def flagOf? (c : Char) : Option Flag :=
  if c = 'i' then some .ignoreCase
  else if c = 'm' then some .multiLine
  else if c = 's' then some .dotAll
  else if c = 'U' then some .swapGreed
  else if c = 'u' then some .unicode
  else if c = 'R' then some .crlf
  else if c = 'x' then some .verbose
  else none

/-- Flags up to a colon or a parenthesis; `negated` once a minus was seen, `dangling` right behind
it. No flag is given twice. -/
def flagList (negated dangling : Bool) (seen : Flags) : List Char → Option (Flags × Char × List Char)
  | [] => none
  | c :: cs =>
    if c = ':' ∨ c = ')' then if dangling then none else some (seen.reverse, c, cs)
    else if c = '-' then if negated then none else flagList true true seen cs
    else match flagOf? c with
      | none => none
      | some f =>
        if seen.any (·.1 = f) then none else flagList negated false ((f, !negated) :: seen) cs

end Regex
end PromptWeave
