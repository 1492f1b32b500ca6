import PromptWeave.Cursor
import PromptWeave.NamePattern.Safety

/-! The safety check with a cursor.
The pattern is read place by place, in loops of at most `limit` turns. The cursor jumps over an escape and
over a class, and what it then asks for has to be there. -/
namespace PromptWeave
namespace NamePattern
namespace ByCursor

open Cursor

/-! ### Repetitions -/

/-- Reading a count in braces: the place, and how many digits were met. -/
structure Counting where
  place : Nat
  digits : Nat

def countTurn (cs : List Char) (s : Counting) : Except Fault (Turn Counting Counting) := do
  if cs[s.place]?.any isCountChar then
    let c ← character cs s.place
    let digits ← plus s.digits (if c.isDigit then 1 else 0)
    return .next ⟨← plus s.place 1, digits⟩
  else return .done s

/-- Whether a repetition stands at a place. -/
def repeatsFrom (limit : Nat) (cs : List Char) (place : Nat) : Except Fault Bool :=
  match cs[place]? with
  | none => return false
  | some c =>
    if c = '*' ∨ c = '+' then return true
    else if c = '\x7b' then do
      let s ← turns (countTurn cs) limit ⟨← plus place 1, 0⟩
      return decide (0 < s.digits) && cs[s.place]? == some '\x7d'
    else return false

/-! ### Classes -/

def classTurn (cs : List Char) (place : Nat) : Except Fault (Turn Nat Nat) := do
  if place < cs.length then
    let c ← character cs place
    if c = '\\' then return .next (← plus place 2)
    else if c = ']' then return .done place
    else return .next (← plus place 1)
  else return .done (cs.length - 1)

/-- The place behind a character, if it stands here. -/
def behind (cs : List Char) (c : Char) (place : Nat) : Except Fault Nat :=
  if cs[place]? = some c then plus place 1 else return place

/-- The place where the class ends that opens at a place. -/
def classEnd (limit : Nat) (cs : List Char) (place : Nat) : Except Fault Nat := do
  turns (classTurn cs) limit (← behind cs ']' (← behind cs '^' (← plus place 1)))

/-! ### Branches -/

/-- Cutting the inside of a group: the branches that are cut off, the one being read, how many groups
are open and the place. -/
structure Splitting where
  finished : List (List Char)
  current : List Char
  depth : Nat
  place : Nat

def deepen (c : Char) (depth : Nat) : Except Fault Nat :=
  if c = '(' then plus depth 1 else return if c = ')' then depth - 1 else depth

def splitTurn (limit : Nat) (cs : List Char) (s : Splitting) :
    Except Fault (Turn Splitting (List (List Char))) := do
  if s.place < cs.length then
    let c ← character cs s.place
    if c = '|' ∧ s.depth = 0 then
      return .next ⟨s.finished ++ [s.current], [], 0, ← plus s.place 1⟩
    else if c = '\\' then
      let escaped := cs[← plus s.place 1]?.toList
      return .next ⟨s.finished, s.current ++ c :: escaped, s.depth, ← plus s.place 2⟩
    else if c = '[' then
      let stop ← plus (← classEnd limit cs s.place) 1
      return .next ⟨s.finished, s.current ++ (← stretch cs s.place stop), s.depth, stop⟩
    else
      return .next ⟨s.finished, s.current ++ [c], ← deepen c s.depth, ← plus s.place 1⟩
  else return .done (s.finished ++ [s.current])

/-- The branches of a text. -/
def split (limit : Nat) (cs : List Char) : Except Fault (List (List Char)) :=
  turns (splitTurn limit cs) limit ⟨[], [], 0, 0⟩

/-- Whether two branches of a group begin alike. -/
def overlap (limit : Nat) (inside : List Char) : Except Fault Bool := do
  return anyComparable (← split limit (withoutFlags inside))

/-! ### Groups -/

/-- A group that is open: the place behind its parenthesis, and whether a repetition was seen. -/
structure Opening where
  start : Nat
  repeats : Bool

/-- Reading a pattern: the groups that are open, the innermost first, and the place. -/
structure Scanning where
  groups : List Opening
  place : Nat

/-- Tells the innermost group if there is a repetition inside it. -/
def markIf : Bool → List Opening → List Opening
  | true, g :: groups => { g with repeats := true } :: groups
  | _, groups => groups

/-- The closing parenthesis of a group stands at a place. -/
def closeTurn (limit : Nat) (cs : List Char) (place : Nat) (g : Opening) (groups : List Opening) :
    Except Fault (Turn Scanning (Option Hazard)) := do
  if ← repeatsFrom limit cs (← plus place 1) then
    if g.repeats then return .done (some .nestedQuantifier)
    else if ← overlap limit (← stretch cs g.start place) then
      return .done (some .overlappingBranches)
    else return .next ⟨groups, ← plus place 1⟩
  else return .next ⟨markIf g.repeats groups, ← plus place 1⟩

def scanTurn (limit : Nat) (cs : List Char) (s : Scanning) :
    Except Fault (Turn Scanning (Option Hazard)) := do
  if s.place < cs.length then
    let c ← character cs s.place
    if c = '\\' then return .next ⟨s.groups, ← plus s.place 2⟩
    else if c = '[' then return .next ⟨s.groups, ← plus (← classEnd limit cs s.place) 1⟩
    else if c = '(' then
      return .next ⟨⟨← plus s.place 1, false⟩ :: s.groups, ← plus s.place 1⟩
    else if c = ')' then
      match s.groups with
      | [] => return .next ⟨[], ← plus s.place 1⟩
      | g :: groups => closeTurn limit cs s.place g groups
    else return .next ⟨markIf (← repeatsFrom limit cs s.place) s.groups, ← plus s.place 1⟩
  else return .done none

/-- The safety check. Loops take at most `limit` turns. -/
def check (limit : Nat) (pattern : String) : Except Fault (Except Error Unit) := do
  if maxLength < pattern.toList.length then
    return .error (.unsafePattern pattern (.tooLong maxLength))
  else match ← turns (scanTurn limit pattern.toList) limit ⟨[], 0⟩ with
    | some h => return .error (.unsafePattern pattern h)
    | none => return .ok ()

end ByCursor
end NamePattern
end PromptWeave
