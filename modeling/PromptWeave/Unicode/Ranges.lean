import PromptWeave.Text.Blank

/-! Sets of numbers as ranges.
A set is a list of ranges in increasing order that neither meet nor touch. Tables are written as
hexadecimal ranges with blanks between. -/
namespace PromptWeave

abbrev RangeSet := List (Nat × Nat)

namespace RangeSet

def contains (s : RangeSet) (n : Nat) : Bool := s.any fun (lo, hi) => lo ≤ n && n ≤ hi

/-- Joins a range to the ranges behind it, which are in order, where they meet or touch. -/
def push (lo hi : Nat) : RangeSet → RangeSet
  | [] => [(lo, hi)]
  | (a, b) :: rest =>
    if hi + 1 < a then (lo, hi) :: (a, b) :: rest
    else push (min lo a) (max hi b) rest

/-- Puts ranges in order and joins them. -/
def ofList (rs : List (Nat × Nat)) : RangeSet :=
  ((rs.filter fun r => r.1 ≤ r.2).mergeSort fun a b => a.1 ≤ b.1).foldr (fun r s => push r.1 r.2 s) []

def union (s t : RangeSet) : RangeSet := ofList (s ++ t)

/-- What lies from `start` to `last` and in no range. -/
def gaps (start last : Nat) : RangeSet → RangeSet
  | [] => if start ≤ last then [(start, last)] else []
  | (lo, hi) :: rest =>
    if start < lo then (start, lo - 1) :: gaps (hi + 1) last rest else gaps (hi + 1) last rest

def inter (s t : RangeSet) : RangeSet :=
  ofList (s.flatMap fun (a, b) => t.filterMap fun (c, d) =>
    if max a c ≤ min b d then some (max a c, min b d) else none)

end RangeSet

namespace Unicode

/-- The characters: all numbers up to the last one except the surrogates. -/
def allChars : RangeSet := [(0, 0xD7FF), (0xE000, 0x10FFFF)]

/-- The characters outside a set. -/
def complement (s : RangeSet) : RangeSet :=
  RangeSet.inter allChars (RangeSet.gaps 0 0x10FFFF s)

def hexDigit (c : Char) : Nat :=
  if c.isDigit then c.toNat - '0'.toNat else c.toNat - 'A'.toNat + 10

def hexNumber (cs : List Char) : Nat := cs.foldl (fun n c => n * 16 + hexDigit c) 0

def rangeOfText (cs : List Char) : Nat × Nat :=
  match Text.cutAt? '-' cs with
  | some (lo, hi) => (hexNumber lo, hexNumber hi)
  | none => (hexNumber cs, hexNumber cs)

/-- Reads a table entry. -/
def rangesOfText (s : String) : RangeSet :=
  ((Text.splitAt ' ' s.toList).filter fun cs => !cs.isEmpty).map rangeOfText

/-- The set that a table has under a name. -/
def lookupRanges (table : List (String × String)) (name : String) : Option RangeSet :=
  (table.lookup name).map rangesOfText

end Unicode
end PromptWeave
