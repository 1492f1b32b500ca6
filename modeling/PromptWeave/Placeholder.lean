import PromptWeave.Text.Blank

/-! Placeholders in texts.
A placeholder is a dotted path between double braces, with blanks allowed around the path. A text
is cut from the left into placeholders, as early as possible, and the single characters between. -/
namespace PromptWeave

/-- A placeholder as it stands in a text. -/
structure Placeholder where
  lead : List Char
  path : List Char
  trail : List Char
deriving DecidableEq, Repr

namespace Placeholder

def openMark : List Char := ['\x7b', '\x7b']

def closeMark : List Char := ['\x7d', '\x7d']

/-- The text of a placeholder. -/
def source (p : Placeholder) : List Char :=
  openMark ++ p.lead ++ p.path ++ p.trail ++ closeMark

def isLetter (c : Char) : Bool := ('a' ≤ c && c ≤ 'z') || ('A' ≤ c && c ≤ 'Z')

def isFirst (c : Char) : Bool := isLetter c || c == '_'

def isInner (c : Char) : Bool := isFirst c || ('0' ≤ c && c ≤ '9') || c == '-'

/-- Continues a path: inner characters, and points that an inner character follows. -/
def pathRun : List Char → List Char × List Char
  | [] => ([], [])
  | '.' :: d :: rest =>
    if isInner d then
      let (path, rest) := pathRun rest
      ('.' :: d :: path, rest)
    else ([], '.' :: d :: rest)
  | c :: rest =>
    if isInner c then
      let (path, rest) := pathRun rest
      (c :: path, rest)
    else ([], c :: rest)

/-- The path at the beginning of a text. -/
def path? : List Char → Option (List Char × List Char)
  | [] => none
  | c :: rest =>
    if isFirst c then
      let (path, rest) := pathRun rest
      some (c :: path, rest)
    else none

/-- The placeholder at the beginning of a text. -/
def at? (cs : List Char) : Option Placeholder := do
  let rest ← Text.after? openMark cs
  let (path, behind) ← path? (rest.dropWhile Text.isBlank)
  let _ ← Text.after? closeMark (behind.dropWhile Text.isBlank)
  return ⟨rest.takeWhile Text.isBlank, path, behind.takeWhile Text.isBlank⟩

/-- A piece of a text. -/
inductive Piece
  | plain (c : Char)
  | hole (p : Placeholder)
deriving DecidableEq, Repr

def Piece.source : Piece → List Char
  | .plain c => [c]
  | .hole p => p.source

/-- Cuts a text into pieces; the first `skip` characters belong to a placeholder that was found. -/
def cut : Nat → List Char → List Piece
  | _, [] => []
  | skip + 1, _ :: rest => cut skip rest
  | 0, c :: rest => match at? (c :: rest) with
    | some p => .hole p :: cut (p.source.length - 1) rest
    | none => .plain c :: cut 0 rest

def pieces (cs : List Char) : List Piece := cut 0 cs

/-- Whether double braces open anywhere in the text. -/
def opens : List Char → Bool
  | [] => false
  | c :: rest => Text.startsWith openMark (c :: rest) || opens rest

end Placeholder
end PromptWeave
