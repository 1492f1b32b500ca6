import PromptWeave.Proofs.Text
import PromptWeave.Unicode.Property
import PromptWeave.Unicode.Category

/-! Tables line by line.
An entry of a table has many lines. What holds of the ranges of each line holds of all ranges of the
set. -/
namespace PromptWeave
namespace Unicode

def rangesIn (cs : List Char) : RangeSet :=
  ((Text.splitAt ' ' cs).filter fun cs => !cs.isEmpty).map rangeOfText

theorem rangesIn_append (xs ys : List Char) :
    rangesIn (xs ++ ' ' :: ys) = rangesIn xs ++ rangesIn ys := by
  simp [rangesIn, Text.splitAt_append]

theorem rangesIn_append_of_getLast? {xs : List Char} (h : xs.getLast? = some ' ') (ys : List Char) :
    rangesIn (xs ++ ys) = rangesIn xs ++ rangesIn ys := by
  obtain ⟨front, rfl⟩ := List.getLast?_eq_some_iff.mp h
  have hblank : rangesIn [] = [] := rfl
  rw [List.append_assoc, List.singleton_append, rangesIn_append, rangesIn_append, hblank,
    List.append_nil]

/-- The lines of an entry so far have ranges with `p` only, and another line follows. -/
structure Lines (p : Nat × Nat → Bool) (s : String) : Prop where
  ranges : (rangesIn s.toList).all p = true
  goesOn : s.toList.getLast? = some ' '

def isLine (p : Nat × Nat → Bool) (cs : List Char) : Bool :=
  cs.getLast? == some ' ' && (rangesIn cs).all p

namespace Lines

variable {p : Nat × Nat → Bool} {s : String} {cs : List Char}

theorem first (h : isLine p cs = true) : Lines p (String.ofList cs) := by
  rw [isLine, Bool.and_eq_true, beq_iff_eq] at h
  exact ⟨by rw [String.toList_ofList]; exact h.2, by rw [String.toList_ofList]; exact h.1⟩

theorem ranges_append (h : Lines p s) (hcs : (rangesIn cs).all p = true) :
    (rangesIn (s ++ String.ofList cs).toList).all p = true := by
  rw [String.toList_append, String.toList_ofList, rangesIn_append_of_getLast? h.goesOn,
    List.all_append, h.ranges, hcs, Bool.and_self]

theorem next (h : Lines p s) (hcs : isLine p cs = true) : Lines p (s ++ String.ofList cs) := by
  rw [isLine, Bool.and_eq_true, beq_iff_eq] at hcs
  refine ⟨h.ranges_append hcs.2, ?_⟩
  rw [String.toList_append, String.toList_ofList, List.getLast?_append, hcs.1, Option.some_or]

end Lines

theorem all_lookupRanges {p : Nat × Nat → Bool} {table : List (String × String)}
    {name text : String} (hname : table.lookup name = some text)
    (h : (rangesIn text.toList).all p = true) :
    ((lookupRanges table name).getD []).all p = true := by
  rw [lookupRanges, hname]
  exact h

theorem contains_of_all {s : RangeSet} {n : Nat} (h : s.contains n = true) {p : Nat × Nat → Bool}
    (hp : s.all p = true) : ∃ r, p r = true ∧ r.1 ≤ n ∧ n ≤ r.2 := by
  obtain ⟨r, hr, hn⟩ := List.any_eq_true.mp h
  exact ⟨r, List.all_eq_true.mp hp r hr, by simpa using hn⟩

/-! ### Letters and numbers -/

def fromZero (r : Nat × Nat) : Bool := Nat.blt 47 r.1

theorem fromZero_alphabetic : (propertyRanges "alphabetic").all fromZero = true := by
  refine all_lookupRanges rfl (Lines.ranges_append ?_ (by decide +kernel))
  repeat refine Lines.next ?_ (by decide +kernel)
  exact Lines.first (by decide +kernel)

theorem fromZero_numeric : ["Nd", "Nl", "No"].all
    (fun name => ((lookupRanges categoryTable name).getD []).all fromZero) = true := by
  rw [List.all_eq_true]
  simp only [List.forall_mem_cons, List.not_mem_nil, false_implies, implies_true, and_true]
  refine ⟨?_, ?_, ?_⟩
  all_goals
    refine all_lookupRanges rfl (Lines.ranges_append ?_ (by decide +kernel))
    repeat refine Lines.next ?_ (by decide +kernel)
    exact Lines.first (by decide +kernel)

end Unicode
end PromptWeave
