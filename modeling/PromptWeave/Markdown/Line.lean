import PromptWeave.Text.Blank
import PromptWeave.Unicode.Digit

/-! Kinds of markdown lines outside fenced code.
A line is tried as a fence, a heading, a blank line and a list item, in this order; any other line
is running text. -/
namespace PromptWeave
namespace Markdown

inductive LineClass
  | fence (mark : Char)
  | heading (depth : Nat) (title : List Char)
  | blank
  | bullet (text : List Char)
  | running (text : List Char) (indented : Bool)
deriving DecidableEq, Repr

/-- The character of a fence that begins here. -/
def fenceMark? : List Char → Option Char
  | '\x60' :: '\x60' :: '\x60' :: _ => some '\x60'
  | '~' :: '~' :: '~' :: _ => some '~'
  | _ => none

/-- Whether a line ends a block that a fence of `mark` has opened. -/
def closesFence (mark : Char) (line : List Char) : Bool :=
  Text.startsWith [mark, mark, mark] (Text.trimStart line)

/-- Drops closing hashes, unless nothing else would be left. -/
def cleanTitle (raw : List Char) : List Char :=
  let kept := Text.trimEnd (Text.dropLastWhile (· == '#') raw)
  if kept.isEmpty then raw else kept

/-- The title behind the hashes: there must be a blank, and a character to show behind it. Where
only blanks follow, the last of two or more is the title. -/
def titleOf? (behind : List Char) : Option (List Char) :=
  let gap := behind.takeWhile Text.isBlank
  let body := behind.dropWhile Text.isBlank
  if gap.isEmpty then none
  else if !body.isEmpty then some (cleanTitle (Text.trimEnd body))
  else if 2 ≤ gap.length then gap.getLast?.map fun c => cleanTitle [c]
  else none

/-- A heading has one to six hashes behind at most three blanks. -/
def heading? (line : List Char) : Option (Nat × List Char) := do
  let indent := line.takeWhile Text.isBlank
  let rest := line.dropWhile Text.isBlank
  let depth := (rest.takeWhile (· == '#')).length
  if 3 < indent.length || depth == 0 || 6 < depth then none
  else return (depth, ← titleOf? (rest.drop depth))

/-- What follows the marker of a list item: a dash, star or plus, or a number with a point or a
parenthesis behind it. -/
def marker? : List Char → Option (List Char)
  | '-' :: rest | '*' :: rest | '+' :: rest => some rest
  | cs => match cs.takeWhile Unicode.isDigit, cs.dropWhile Unicode.isDigit with
    | _ :: _, '.' :: rest | _ :: _, ')' :: rest => some rest
    | _, _ => none

/-- The text of a list item, which stands behind a marker and a blank. -/
def bullet? (line : List Char) : Option (List Char) :=
  match marker? (Text.trimStart line) with
  | some (c :: rest) => if Text.isBlank c then some (Text.trim rest) else none
  | _ => none

def isIndented : List Char → Bool
  | ' ' :: _ | '\t' :: _ => true
  | _ => false

def classify (line : List Char) : LineClass :=
  let text := Text.trim line
  match fenceMark? text with
  | some mark => .fence mark
  | none => match heading? line with
    | some (depth, title) => .heading depth title
    | none =>
      if text.isEmpty then .blank
      else match bullet? line with
        | some item => .bullet item
        | none => .running text (isIndented line)

end Markdown
end PromptWeave
