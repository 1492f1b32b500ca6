import PromptWeave.Regex.Escape

/-! Bracketed sets of characters.
Two ampersands, minus signs or tildes combine all that stands before them with what follows up to
the next operator. -/
namespace PromptWeave
namespace Regex

def asciiKinds : List (String × AsciiKind) := [
  ("alnum", .alnum), ("alpha", .alpha), ("ascii", .ascii), ("blank", .blank), ("cntrl", .cntrl),
  ("digit", .digit), ("graph", .graph), ("lower", .lower), ("print", .print), ("punct", .punct),
  ("space", .space), ("upper", .upper), ("word", .word), ("xdigit", .xdigit)]

/-- A named ASCII set, behind its opening bracket. -/
def asciiSet? (cs : List Char) : Option (CharSet × List Char) := do
  let cs ← Text.after? [':'] cs
  let (negated, cs) := match cs with
    | '^' :: rest => (true, rest)
    | cs => (false, cs)
  let (name, rest) ← Text.cutAt? ':' cs
  let rest ← Text.after? [']'] rest
  return (.ascii negated (← asciiKinds.lookup (String.ofList name)), rest)

/-- The atom as a part of a set. -/
def partOfAtom : Atom → Option CharSet
  | .literal l => some (.literal l)
  | .query q => some (.query q)
  | .perl negated kind => some (.perl negated kind)
  | .dot | .assertion _ | .set _ => none

def literalOfAtom : Atom → Option Literal
  | .literal l => some l
  | _ => none

/-- An atom inside brackets: only a backslash is special. -/
def setAtom (verbose : Bool) : List Char → Option (Atom × List Char)
  | [] => none
  | '\\' :: cs => escape verbose cs
  | c :: cs => some (.literal ⟨c, false⟩, cs)

/-- The character behind a minus sign, blanks apart. In verbose mode a comment sign is passed
over, but not the comment. -/
def peekFrom (cs : List Char) : (inComment : Bool) → List Char → Option Char
  | _, [] => cs.head?
  | inComment, d :: ds =>
    if Text.isBlank d then peekFrom cs inComment ds
    else if !inComment && d == '#' then peekFrom cs true ds
    else some d

def peek (verbose : Bool) (cs : List Char) : Option Char :=
  if verbose then peekFrom cs false cs else cs.head?

/-- A single part of a set, or a range. -/
def setRange (verbose : Bool) (cs : List Char) : Option (CharSet × List Char) := do
  let (first, rest) ← setAtom verbose cs
  match skip verbose rest with
  | [] => none
  | '-' :: more =>
    if peek verbose more = some ']' ∨ peek verbose more = some '-' then
      return (← partOfAtom first, '-' :: more)
    else
      let (last, rest) ← setAtom verbose (skip verbose more)
      let lo ← literalOfAtom first
      let hi ← literalOfAtom last
      if lo.char ≤ hi.char then return (.range lo hi, rest) else none
  | rest => return (← partOfAtom first, rest)

/-- Minus signs in front, reversed, and the rest; the text may not end here. -/
def leadingMinus (verbose : Bool) : (fuel : Nat) → List CharSet → List Char →
    Option (List CharSet × List Char)
  | 0, _, _ | _ + 1, _, [] => none
  | fuel + 1, parts, c :: cs =>
    if c = '-' then leadingMinus verbose fuel (.literal ⟨'-', false⟩ :: parts) (skip verbose cs)
    else some (parts, c :: cs)

/-- What stands first in a set: a caret, minus signs, or a closing bracket that closes nothing. -/
def setStart (verbose : Bool) (cs : List Char) : Option (Bool × List CharSet × List Char) := do
  let (negated, cs) := match skip verbose cs with
    | '^' :: rest => (true, skip verbose rest)
    | cs => (false, cs)
  match ← leadingMinus verbose (cs.length + 1) [] cs with
  | ([], ']' :: rest) => match skip verbose rest with
    | [] => none
    | rest => return (negated, [.literal ⟨']', false⟩], rest)
  | (parts, rest) => return (negated, parts, rest)

/-- The parts read so far, given in reverse, as one set. -/
def unionOf (parts : List CharSet) : CharSet :=
  match parts with
  | [s] => s
  | parts => .union parts.reverse

/-- The parts read so far and the operator that waits for them. -/
def applyOp (waiting : Option (SetOp × CharSet)) (parts : List CharSet) : CharSet :=
  match waiting with
  | some (o, lhs) => .op o lhs (unionOf parts)
  | none => unionOf parts

def setOp? : List Char → Option (SetOp × List Char)
  | '&' :: '&' :: cs => some (.inter, cs)
  | '-' :: '-' :: cs => some (.diff, cs)
  | '~' :: '~' :: cs => some (.symDiff, cs)
  | _ => none

/-- The rest of a set up to its closing bracket. -/
def setBody (verbose : Bool) : (fuel : Nat) → (waiting : Option (SetOp × CharSet)) →
    (parts : List CharSet) → List Char → Option (CharSet × List Char)
  | 0, _, _, _ => none
  | fuel + 1, waiting, parts, cs => match skip verbose cs with
    | [] => none
    | ']' :: rest => some (applyOp waiting parts, rest)
    | '[' :: rest => match asciiSet? rest with
      | some (s, rest) => setBody verbose fuel waiting (s :: parts) rest
      | none => do
        let (negated, start, rest) ← setStart verbose rest
        let (inner, rest) ← setBody verbose fuel none start rest
        setBody verbose fuel waiting (.bracket negated inner :: parts) rest
    | cs => match setOp? cs with
      | some (o, rest) => setBody verbose fuel (some (o, applyOp waiting parts)) [] rest
      | none => do
        let (s, rest) ← setRange verbose cs
        setBody verbose fuel waiting (s :: parts) rest

/-- A bracketed set, behind its opening bracket. -/
def bracketed (verbose : Bool) (cs : List Char) : Option (Atom × List Char) := do
  let (negated, start, rest) ← setStart verbose cs
  let (inner, rest) ← setBody verbose (cs.length + 1) none start rest
  return (.set (.bracket negated inner), rest)

end Regex
end PromptWeave
