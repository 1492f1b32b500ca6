import PromptWeave.NamePattern.ByCursor
import PromptWeave.Proofs.Cursor
import PromptWeave.Proofs.NamePattern.Branching

/-! Parts of a pattern, read with a cursor.
Counts, classes and branches are what the check finds without one. The cursor may jump behind the end
of the text, over an escape, but it asks for no character and no stretch that is not there. -/
namespace PromptWeave
namespace NamePattern
namespace ByCursor

open Cursor

variable {limit : Nat} {cs : List Char}

/-! ### Repetitions -/

def Counting.finish (cs : List Char) (s : Counting) : Counting :=
  let count := (cs.drop s.place).takeWhile isCountChar
  ⟨s.place + count.length, s.digits + count.countP Char.isDigit⟩

theorem countTurn_leads (h : Fits limit cs) (s : Counting) (hs : s.digits ≤ s.place) :
    Leads cs Counting.place (fun s => s.digits ≤ s.place) (Counting.finish cs) s (countTurn cs s) := by
  rcases at_end_or_character cs s.place with ⟨hend, hdrop⟩ | ⟨c, hlt, hget, hdrop⟩
  · have hnone : cs[s.place]? = none := List.getElem?_eq_none hend
    simp [countTurn, hnone, pure_eq, Leads, Counting.finish, hdrop]
  · by_cases hcount : isCountChar c = true
    · have hone : (if c.isDigit then 1 else 0) ≤ 1 := by split_ifs <;> omega
      have hmore : plus s.digits (if c.isDigit then 1 else 0) =
          .ok (s.digits + if c.isDigit then 1 else 0) := h.plus_eq (by omega)
      have hfinish : Counting.finish cs ⟨s.place + 1, s.digits + if c.isDigit then 1 else 0⟩ =
          s.finish cs := by
        simp only [Counting.finish, hdrop, List.takeWhile_cons, hcount, if_true, List.length_cons,
          List.countP_cons, Counting.mk.injEq]
        omega
      have hturn : countTurn cs s =
          .ok (.next ⟨s.place + 1, s.digits + if c.isDigit then 1 else 0⟩) := by
        rw [countTurn, hget, Option.any_some, if_pos hcount, character_eq_ok.mpr hget, ok_bind, hmore,
          ok_bind, h.next hlt]
        rfl
      rw [hturn]
      exact ⟨hlt, Nat.lt_succ_self _, Nat.add_le_add hs hone, hfinish⟩
    · simp [countTurn, hget, hcount, pure_eq, Leads, Counting.finish, hdrop]

theorem repeatsFrom_eq (h : Fits limit cs) (place : Nat) :
    repeatsFrom limit cs place = .ok (repeatsAt (cs.drop place)) := by
  rcases at_end_or_character cs place with ⟨hend, hdrop⟩ | ⟨c, hlt, hget, hdrop⟩
  · rw [repeatsFrom, List.getElem?_eq_none hend, hdrop]
    rfl
  · rw [hdrop, repeatsFrom, hget, repeatsAt]
    simp only
    split_ifs with hmark hbrace
    · rfl
    · have hcount : turns (countTurn cs) limit ⟨place + 1, 0⟩ =
          .ok (Counting.finish cs ⟨place + 1, 0⟩) :=
        h.turns_eq (countTurn_leads h) (Nat.zero_le _)
      have hdigits : (0 < ((cs.drop (place + 1)).takeWhile isCountChar).countP Char.isDigit) ↔
          ((cs.drop (place + 1)).takeWhile isCountChar).any Char.isDigit = true := by
        rw [List.countP_pos_iff, List.any_eq_true]
      rw [h.next hlt, ok_bind, hcount, ok_bind]
      simp only [Counting.finish, pure_eq, Nat.zero_add, ← List.getElem?_drop,
        getElem?_length_takeWhile, hdigits, Bool.decide_eq_true]
    · rfl

/-! ### Classes -/

/-- The place where the rest of a class ends. The cursor may have jumped over the end of the text. -/
def classRest (cs : List Char) (place : Nat) : Nat :=
  min (place + classTail (cs.drop place)) cs.length - 1

theorem classTail_le (ds : List Char) : classTail ds ≤ ds.length := by
  fun_induction classTail ds with
  | case1 => exact Nat.le_refl 0
  | case2 => exact Nat.le_refl 1
  | case3 c ds ih => simpa using ih
  | case4 ds => simp
  | case5 c ds hend hescape hclose ih => simpa using ih

theorem classTurn_leads (h : Fits limit cs) (place : Nat) (hplace : place ≤ cs.length + 1) :
    Leads cs id (· ≤ cs.length + 1) (classRest cs) place (classTurn cs place) := by
  rcases at_end_or_character cs place with ⟨hend, hdrop⟩ | ⟨c, hlt, hget, hdrop⟩
  · have hanswer : classRest cs place = cs.length - 1 := by
      rw [classRest, hdrop, classTail]
      omega
    rw [classTurn, if_neg (by omega)]
    exact hanswer.symm
  · rw [classTurn, if_pos hlt, character_eq_ok.mpr hget, ok_bind]
    split_ifs with hback hclose
    · have hanswer : classRest cs (place + 2) = classRest cs place := by
        subst hback
        rw [classRest, classRest, hdrop]
        rcases at_end_or_character cs (place + 1) with ⟨hend, hrest⟩ | ⟨d, -, -, hrest⟩
        · rw [hrest, classTail]
          omega
        · rw [hrest, classTail, Nat.add_assoc place 1 1]
          omega
      rw [h.jump hlt]
      exact ⟨hlt, Nat.lt_add_of_pos_right (by omega), by omega, hanswer⟩
    · have hanswer : classRest cs place = place := by
        rw [classRest, hdrop, hclose, classTail]
        omega
      exact hanswer.symm
    · have hanswer : classRest cs (place + 1) = classRest cs place := by
        rw [classRest, classRest, hdrop, classTail_cons hback hclose]
        omega
      rw [h.next hlt]
      exact ⟨hlt, Nat.lt_succ_self place, by omega, hanswer⟩

/-- How many characters stand in front of the rest if `c` may stand there once. -/
def leading (c : Char) (ds : List Char) : Nat := if ds.head? = some c then 1 else 0

theorem leading_le (c : Char) (ds : List Char) : leading c ds ≤ ds.length := by
  cases ds with
  | nil => simp [leading]
  | cons d ds =>
    rw [leading, List.length_cons]
    split_ifs <;> omega

theorem behind_eq (h : Fits limit cs) (c : Char) (place : Nat) :
    behind cs c place = .ok (place + leading c (cs.drop place)) := by
  rw [behind, leading, List.head?_drop]
  split_ifs with hget
  · obtain ⟨hlt, -⟩ := List.getElem?_eq_some_iff.mp hget
    exact h.next hlt
  · rfl

/-- The length of a class from where a bracket may stand that closes nothing. -/
def bodyLength (ds : List Char) : Nat := leading ']' ds + classTail (ds.drop (leading ']' ds))

theorem classLength_eq (ds : List Char) :
    classLength ds = leading '^' ds + bodyLength (ds.drop (leading '^' ds)) := by
  cases ds with
  | nil => rfl
  | cons c ds =>
    by_cases hcaret : c = '^'
    · subst hcaret
      by_cases hclose : ds.head? = some ']'
      · obtain ⟨es, rfl⟩ := List.head?_eq_some_iff.mp hclose
        simp [classLength, bodyLength, leading]
        omega
      · simp [classLength_caret hclose, bodyLength, leading, hclose, Nat.add_comm]
    · by_cases hclose : c = ']'
      · subst hclose
        simp [classLength, bodyLength, leading, Nat.add_comm]
      · simp [classLength_other hcaret hclose, bodyLength, leading, hcaret, hclose]

theorem bodyLength_le (ds : List Char) : bodyLength ds ≤ ds.length := by
  have hclose := leading_le ']' ds
  have htail := classTail_le (ds.drop (leading ']' ds))
  rw [List.length_drop] at htail
  rw [bodyLength]
  omega

theorem classLength_le (ds : List Char) : classLength ds ≤ ds.length := by
  have hcaret := leading_le '^' ds
  have hbody := bodyLength_le (ds.drop (leading '^' ds))
  rw [List.length_drop] at hbody
  rw [classLength_eq]
  omega

theorem classRest_body {place : Nat} (hplace : place ≤ cs.length) :
    classRest cs (place + leading ']' (cs.drop place)) = place + bodyLength (cs.drop place) - 1 := by
  have hbody := bodyLength_le (cs.drop place)
  rw [List.length_drop] at hbody
  rw [classRest, ← List.drop_drop, Nat.add_assoc, ← bodyLength, Nat.min_eq_left (by omega)]

/-- The class ends in the text, at its bracket or at the last character. -/
theorem classEnd_eq (h : Fits limit cs) {place : Nat} (hplace : place < cs.length) :
    classEnd limit cs place = .ok (place + classLength (cs.drop (place + 1))) ∧
      place + classLength (cs.drop (place + 1)) < cs.length := by
  have hlength := classLength_le (cs.drop (place + 1))
  have hcaret := leading_le '^' (cs.drop (place + 1))
  have hclose := leading_le ']' (cs.drop (place + 1 + leading '^' (cs.drop (place + 1))))
  rw [List.length_drop] at hlength hcaret hclose
  refine ⟨?_, by omega⟩
  rw [classEnd, h.next hplace, ok_bind, behind_eq h, ok_bind, behind_eq h, ok_bind,
    h.turns_eq (classTurn_leads h) (by omega), classRest_body (by omega), classLength_eq, List.drop_drop]
  congr 1
  omega

/-! ### Branches -/

def depthBehind (c : Char) (depth : Nat) : Nat :=
  if c = '(' then depth + 1 else if c = ')' then depth - 1 else depth

def Splitting.finish (cs : List Char) (s : Splitting) : List (List Char) :=
  s.finished ++ s.current.foldr intoFirst (splitBranches 0 s.depth (cs.drop s.place))

theorem splitBranches_drop (n depth : Nat) (ds : List Char) : splitBranches n depth ds =
    (ds.take n).foldr intoFirst (splitBranches 0 depth (ds.drop n)) := by
  induction n generalizing ds with
  | zero => rfl
  | succ n ih =>
    cases ds with
    | nil => rfl
    | cons d ds => exact congrArg (intoFirst d) (ih ds)

theorem splitBranches_cons {c : Char} {depth : Nat} (hbar : ¬(c = '|' ∧ depth = 0)) (hback : c ≠ '\\')
    (hclass : c ≠ '[') (ds : List Char) :
    splitBranches 0 depth (c :: ds) = intoFirst c (splitBranches 0 (depthBehind c depth) ds) := by
  rw [splitBranches, if_neg hbar, if_neg hback, if_neg hclass, depthBehind]
  split_ifs <;> rfl

theorem deepen_eq (h : Fits limit cs) (c : Char) {depth : Nat} (hdepth : depth < cs.length) :
    deepen c depth = .ok (depthBehind c depth) := by
  rw [deepen, depthBehind]
  split_ifs
  · exact h.next hdepth
  · rfl
  · rfl

/-- A character and those that are passed over behind it go to the branch that is being read. -/
theorem Splitting.finish_pass {s : Splitting} {c : Char} {n depth : Nat}
    (hdrop : cs.drop s.place = c :: cs.drop (s.place + 1))
    (hpass : splitBranches 0 s.depth (c :: cs.drop (s.place + 1)) =
      intoFirst c (splitBranches n depth (cs.drop (s.place + 1)))) :
    Splitting.finish cs ⟨s.finished, s.current ++ c :: (cs.drop (s.place + 1)).take n, depth,
      s.place + 1 + n⟩ = s.finish cs := by
  rw [finish, finish, hdrop, hpass, splitBranches_drop n, List.drop_drop, List.foldr_append,
    List.foldr_cons]

theorem splitTurn_leads (h : Fits limit cs) (s : Splitting) (hs : s.depth ≤ s.place) :
    Leads cs Splitting.place (fun s => s.depth ≤ s.place) (Splitting.finish cs) s
      (splitTurn limit cs s) := by
  rcases at_end_or_character cs s.place with ⟨hend, hdrop⟩ | ⟨c, hlt, hget, hdrop⟩
  · have hfinish : s.finish cs = s.finished ++ [s.current] := by
      rw [Splitting.finish, hdrop, splitBranches, foldr_intoFirst, List.append_nil]
    rw [splitTurn, if_neg (by omega)]
    exact hfinish.symm
  · rw [splitTurn, if_pos hlt, character_eq_ok.mpr hget, ok_bind]
    split_ifs with hbar hback hclass
    · have hfinish : Splitting.finish cs ⟨s.finished ++ [s.current], [], 0, s.place + 1⟩ =
          s.finish cs := by
        rw [Splitting.finish, Splitting.finish, hdrop, hbar.1, hbar.2, split_bar, foldr_intoFirst]
        simp
      rw [h.next hlt]
      exact ⟨hlt, Nat.lt_succ_self _, Nat.zero_le _, hfinish⟩
    · have hfinish := Splitting.finish_pass hdrop (hback ▸ split_escape s.depth _)
      have htake : (cs.drop (s.place + 1)).take 1 = cs[s.place + 1]?.toList := by
        rw [← List.head?_drop, List.take_one]
      rw [htake] at hfinish
      rw [h.next hlt, ok_bind, h.jump hlt]
      exact ⟨hlt, Nat.lt_add_of_pos_right (by omega), Nat.le_add_right_of_le hs, hfinish⟩
    · have hfinish := Splitting.finish_pass hdrop (hclass ▸ split_class s.depth _)
      obtain ⟨hstop, hinside⟩ := classEnd_eq h hlt
      generalize classLength (cs.drop (s.place + 1)) = n at hfinish hstop hinside
      have hplace : s.place + n + 1 = s.place + 1 + n := by omega
      have hlength : s.place + 1 + n - s.place = n + 1 := by omega
      have hstretch : stretch cs s.place (s.place + 1 + n) =
          .ok (c :: (cs.drop (s.place + 1)).take n) := by
        rw [stretch_eq_ok, hlength, hdrop, List.take_succ_cons]
        exact ⟨by omega, rfl⟩
      rw [hstop, ok_bind, h.next hinside, hplace, ok_bind, hstretch]
      exact ⟨hlt, by simp only; omega, by simp only; omega, hfinish⟩
    · have hfinish := Splitting.finish_pass (n := 0) hdrop (splitBranches_cons hbar hback hclass _)
      have hless : depthBehind c s.depth ≤ s.place + 1 := by
        rw [depthBehind]
        split_ifs <;> omega
      rw [deepen_eq h c (Nat.lt_of_le_of_lt hs hlt), ok_bind, h.next hlt]
      exact ⟨hlt, Nat.lt_succ_self _, hless, hfinish⟩

theorem split_eq (h : Fits limit cs) : split limit cs = .ok (splitBranches 0 0 cs) :=
  h.turns_eq (s := ⟨[], [], 0, 0⟩) (splitTurn_leads h) (Nat.le_refl 0)

theorem withoutFlags_length (inside : List Char) : (withoutFlags inside).length ≤ inside.length := by
  unfold withoutFlags
  split
  next cs =>
    cases hcut : Text.cutAt? ':' cs with
    | none => simp
    | some parts =>
      have hcs := Text.eq_append_of_cutAt? hcut
      simp only [hcs, List.length_cons, List.length_append]
      omega
  next => exact Nat.le_refl _

theorem overlap_eq (h : Fits limit cs) : overlap limit cs = .ok (branchesOverlap cs) := by
  rw [overlap, split_eq (h.of_le (withoutFlags_length cs))]
  rfl

end ByCursor
end NamePattern
end PromptWeave
