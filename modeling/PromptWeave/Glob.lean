import PromptWeave.Regex.Basic

/-! Glob patterns for names with slashes.
A glob has to match a whole name. A star and a question mark do not match slashes; two stars that
are a component of their own match any number of components. Matching is by byte, so a question
mark matches one byte. -/
namespace PromptWeave

inductive Glob.Token
  | literal (c : Char)
  | any
  | star
  | leading
  | trailing
  | between
  | oneOf (negated : Bool) (ranges : List (Char × Char))
  | choice (branches : List (List Token))

structure Glob where
  tokens : List Glob.Token

namespace Glob

/-! ### Reading -/

/-- The characters between brackets, behind the negation. `first` holds for the first character,
`waiting` while a minus sign waits for the end of its range. -/
def classRanges : (first waiting : Bool) → (ranges : List (Char × Char)) → List Char →
    Option (List (Char × Char) × List Char)
  | _, _, _, [] => none
  | first, waiting, ranges, c :: cs =>
    if c = ']' ∧ !first then
      some ((if waiting then ('-', '-') :: ranges else ranges).reverse, cs)
    else if c = '-' ∧ !first ∧ !waiting then classRanges false true ranges cs
    else if waiting then
      match ranges with
      | (lo, _) :: rest => if lo ≤ c then classRanges false false ((lo, c) :: rest) cs else none
      | [] => none
    else classRanges false false ((c, c) :: ranges) cs

/-- A set of characters, behind its opening bracket. -/
def oneOf (cs : List Char) : Option (Token × List Char) := do
  let (negated, cs) := match cs with
    | '!' :: rest | '^' :: rest => (true, rest)
    | cs => (false, cs)
  let (ranges, rest) ← classRanges true false [] cs
  return (.oneOf negated ranges, rest)

/-- Puts a token for two stars in the place of the slash before them; several of them are one. -/
def overSlash (t : Token) : List Token → List Token
  | .leading :: now => .leading :: now
  | .trailing :: now => .trailing :: now
  | _ :: now => t :: now
  | [] => [t]

/-- What two stars are, where the tokens `now` of a branch, the last one first, precede them.
Otherwise than as a component they are two single stars. -/
def twoStars (nested : Bool) (before : Option Char) (now : List Token) (cs : List Char) :
    List Token × Option Char × List Char :=
  let single := (.star :: .star :: now, some '*', cs)
  if now.isEmpty then
    match cs with
    | [] => ([.leading], some '*', [])
    | '/' :: rest => ([.leading], some '/', rest)
    | _ => single
  else if before ≠ some '/' ∧ (!nested ∨ (before ≠ some ',' ∧ before ≠ some '\x7b')) then single
  else match cs with
    | [] => (overSlash .trailing now, some '*', [])
    | '/' :: rest => (overSlash .between now, some '/', rest)
    | c :: _ =>
      if nested ∧ (c = ',' ∨ c = '\x7d') then (overSlash .trailing now, some '*', cs) else single

/-- Reads branches up to the closing brace, or to the end outside of braces. `before` is the
character in front; `done` and `now` hold what was read, the last first. -/
def body : (fuel : Nat) → (nested : Bool) → (before : Option Char) → (done : List (List Token)) →
    (now : List Token) → List Char → Option (List (List Token) × List Char)
  | 0, _, _, _, _, _ => none
  | _ + 1, nested, _, done, now, [] =>
    if nested then none else some ((now.reverse :: done).reverse, [])
  | fuel + 1, nested, before, done, now, c :: cs =>
    if c = '?' then body fuel nested (some c) done (.any :: now) cs
    else if c = '*' then
      match cs with
      | '*' :: cs =>
        let (now, before, cs) := twoStars nested before now cs
        body fuel nested before done now cs
      | cs => body fuel nested (some c) done (.star :: now) cs
    else if c = '[' then do
      let (t, cs) ← oneOf cs
      body fuel nested (some ']') done (t :: now) cs
    else if c = '\x7b' then do
      let (branches, cs) ← body fuel true (some c) [] [] cs
      body fuel nested (some '\x7d') done (.choice branches :: now) cs
    else if c = '\x7d' then
      if nested then some ((now.reverse :: done).reverse, cs) else none
    else if c = ',' ∧ nested then body fuel nested (some c) (now.reverse :: done) [] cs
    else if c = '\\' then
      match cs with
      | [] => none
      | d :: cs => body fuel nested (some d) done (.literal d :: now) cs
    else body fuel nested (some c) done (.literal c :: now) cs

def parse (pattern : String) : Option Glob := do
  match ← body (pattern.length + 1) false none [] [] pattern.toList with
  | ([tokens], []) => return ⟨tokens⟩
  | _ => none

/-! ### Meaning -/

open Regex

def slash : Expr := .symbol [(0x2F, 0x2F)]

def notSlash : RangeSet := [(0, 0x2E), (0x30, 0xFF)]

/-- Anything on one line. -/
def line : Expr := .repeated (.symbol [(0, 9), (11, 0xFF)]) 0 none

def byte (n : Nat) : Expr := .symbol [(n, n)]

/-- The bytes of a range of characters: the last byte of the one and the first of the other are
the ends of a range, the other bytes stand alone. -/
def byteRanges (lo hi : Char) : RangeSet :=
  let a := utf8 lo.toNat
  let b := utf8 hi.toNat
  if lo = hi then a.map fun n => (n, n)
  else a.dropLast.map (fun n => (n, n)) ++ [(a.getLast?.getD 0, b.head?.getD 0)] ++
    b.tail.map fun n => (n, n)

def bytesOf (negated : Bool) (ranges : List (Char × Char)) : RangeSet :=
  let s := RangeSet.ofList (ranges.flatMap fun (lo, hi) => byteRanges lo hi)
  if negated then RangeSet.gaps 0 0xFF s else s

mutual
def tokenExpr : Token → Expr
  | .literal c => Expr.sequence ((utf8 c.toNat).map byte)
  | .any => .symbol notSlash
  | .star => .repeated (.symbol notSlash) 0 none
  | .leading => .alternatives [.repeated slash 0 (some 1), .concat [line, slash]]
  | .trailing => .concat [slash, line]
  | .between => .alternatives [slash, .concat [slash, line, slash]]
  | .oneOf negated ranges => .symbol (bytesOf negated ranges)
  | .choice branches => match branchExprs branches with
    | [] => .empty
    | es => Expr.choice es
def tokenExprs : List Token → List Expr
  | [] => []
  | t :: ts => tokenExpr t :: tokenExprs ts
/-- Branches that match nothing but the empty text are left out. -/
def branchExprs : List (List Token) → List Expr
  | [] => []
  | b :: bs => match Expr.sequence (tokenExprs b) with
    | .empty => branchExprs bs
    | e => e :: branchExprs bs
end

/-- Two stars alone match all names of a single line. -/
def expr (g : Glob) : Expr :=
  match g.tokens with
  | [.leading] => .concat [.look .start, line, .look .end]
  | tokens => .concat ([.look .start] ++ tokenExprs tokens ++ [.look .end])

def compile? (pattern : String) : Option Regex := do
  let g ← parse pattern
  if g.expr.fits true then return ⟨g.expr, true⟩ else none

end Glob
end PromptWeave
