import PromptWeave.Proofs.NamePattern.ByCursor

/-! The check of a pattern with a cursor.
Its jumps over escapes and classes may take the cursor one character behind the end, and never in front
of the parenthesis of an open group. So all characters and stretches that it asks for are there. Each
turn moves the cursor on, so that every loop ends, and the answer is that of the check. -/
namespace PromptWeave
namespace NamePattern
namespace ByCursor

open Cursor

variable {limit : Nat} {cs : List Char}

def Opening.group (cs : List Char) (g : Opening) : OpenGroup := ⟨cs.drop g.start, g.repeats⟩

def Scanning.finish (cs : List Char) (s : Scanning) : Option Hazard :=
  scan 0 (s.groups.map (Opening.group cs)) (cs.drop s.place)

/-- The cursor is at most one character behind the end, and behind every open parenthesis. -/
def Scanning.InRange (cs : List Char) (s : Scanning) : Prop :=
  s.place ≤ cs.length + 1 ∧ ∀ g ∈ s.groups, g.start ≤ s.place

theorem scan_drop (n : Nat) (groups : List OpenGroup) (ds : List Char) :
    scan n groups ds = scan 0 groups (ds.drop n) := by
  induction n generalizing ds with
  | zero => rfl
  | succ n ih =>
    cases ds with
    | nil => rfl
    | cons d ds => exact ih ds

theorem map_group_markIf (repeats : Bool) (groups : List Opening) :
    (markIf repeats groups).map (Opening.group cs) = mark repeats (groups.map (Opening.group cs)) := by
  cases repeats <;> cases groups <;> rfl

theorem start_le_of_markIf {groups : List Opening} {n : Nat} (h : ∀ g ∈ groups, g.start ≤ n)
    (repeats : Bool) : ∀ g ∈ markIf repeats groups, g.start ≤ n := by
  cases repeats with
  | false => exact h
  | true =>
    cases groups with
    | nil => exact h
    | cons g groups =>
      obtain ⟨hg, hgroups⟩ := List.forall_mem_cons.mp h
      exact List.forall_mem_cons.mpr ⟨hg, hgroups⟩

theorem inRange_of_le {groups : List Opening} {m n : Nat} (h : ∀ g ∈ groups, g.start ≤ m)
    (hm : m ≤ n) (hn : n ≤ cs.length + 1) : Scanning.InRange cs ⟨groups, n⟩ :=
  ⟨hn, fun g hg => Nat.le_trans (h g hg) hm⟩

theorem closeTurn_leads (h : Fits limit cs) {place : Nat} {g : Opening} {groups : List Opening}
    (hg : g.start ≤ place) (hgroups : ∀ g ∈ groups, g.start ≤ place) (hlt : place < cs.length)
    (hdrop : cs.drop place = ')' :: cs.drop (place + 1)) :
    Leads cs Scanning.place (Scanning.InRange cs) (Scanning.finish cs) ⟨g :: groups, place⟩
      (closeTurn limit cs place g groups) := by
  have hstretch := stretch_eq_ok.mpr ⟨⟨hg, Nat.le_of_lt hlt⟩, rfl⟩
  have hlength : (cs.drop g.start).length - ((cs.drop (place + 1)).length + 1) = place - g.start := by
    rw [List.length_drop, List.length_drop]
    omega
  have hoverlap : overlap limit ((cs.drop g.start).take (place - g.start)) =
      .ok (branchesOverlap ((cs.drop g.start).take (place - g.start))) := by
    refine overlap_eq (h.of_le ?_)
    rw [List.length_take, List.length_drop]
    omega
  have hfinish : Scanning.finish cs ⟨g :: groups, place⟩ =
      if repeatsAt (cs.drop (place + 1)) then
        if g.repeats then some .nestedQuantifier
        else if branchesOverlap ((cs.drop g.start).take (place - g.start)) then
          some .overlappingBranches
        else Scanning.finish cs ⟨groups, place + 1⟩
      else Scanning.finish cs ⟨markIf g.repeats groups, place + 1⟩ := by
    rw [Scanning.finish, hdrop, List.map_cons, scan_close, Opening.group, hlength, Scanning.finish,
      Scanning.finish, map_group_markIf]
  rw [closeTurn, h.next hlt, ok_bind, repeatsFrom_eq h, ok_bind]
  split_ifs with hrepeats hnested
  · rw [if_pos hrepeats, if_pos hnested] at hfinish
    exact hfinish.symm
  · rw [if_pos hrepeats, if_neg hnested] at hfinish
    rw [hstretch, ok_bind, hoverlap, ok_bind]
    split_ifs at hfinish ⊢ with hbegin
    · exact hfinish.symm
    · exact ⟨hlt, Nat.lt_succ_self _, inRange_of_le hgroups (by omega) (by omega), hfinish.symm⟩
  · rw [if_neg hrepeats] at hfinish
    exact ⟨hlt, Nat.lt_succ_self _,
      inRange_of_le (start_le_of_markIf hgroups _) (by omega) (by omega), hfinish.symm⟩

theorem scanTurn_leads (h : Fits limit cs) (s : Scanning) (hs : s.InRange cs) :
    Leads cs Scanning.place (Scanning.InRange cs) (Scanning.finish cs) s (scanTurn limit cs s) := by
  obtain ⟨groups, place⟩ := s
  obtain ⟨hplace, hgroups⟩ := hs
  simp only at hplace hgroups
  rcases at_end_or_character cs place with ⟨hend, hdrop⟩ | ⟨c, hlt, hget, hdrop⟩
  · have hfinish : Scanning.finish cs ⟨groups, place⟩ = none := by
      rw [Scanning.finish, hdrop, scan]
    rw [scanTurn, if_neg (Nat.not_lt.mpr hend)]
    exact hfinish.symm
  · rw [scanTurn, if_pos hlt, character_eq_ok.mpr hget, ok_bind]
    split_ifs with hback hclass hopen hclose
    · have hfinish : Scanning.finish cs ⟨groups, place + 2⟩ = Scanning.finish cs ⟨groups, place⟩ := by
        rw [Scanning.finish, Scanning.finish, hdrop, hback, scan_escape, scan_drop 1, List.drop_drop]
      rw [h.jump hlt]
      exact ⟨hlt, Nat.lt_add_of_pos_right (by omega), inRange_of_le hgroups (by omega) (by omega),
        hfinish⟩
    · obtain ⟨hstop, hinside⟩ := classEnd_eq h hlt
      have hfinish : Scanning.finish cs ⟨groups, place + classLength (cs.drop (place + 1)) + 1⟩ =
          Scanning.finish cs ⟨groups, place⟩ := by
        rw [Scanning.finish, Scanning.finish, hdrop, hclass, scan_class,
          scan_drop (classLength (cs.drop (place + 1))), List.drop_drop, Nat.add_right_comm]
      rw [hstop, ok_bind, h.next hinside]
      exact ⟨hlt, by simp only; omega, inRange_of_le hgroups (by omega) (by omega), hfinish⟩
    · have hfinish : Scanning.finish cs ⟨⟨place + 1, false⟩ :: groups, place + 1⟩ =
          Scanning.finish cs ⟨groups, place⟩ := by
        rw [Scanning.finish, Scanning.finish, hdrop, hopen, scan_open]
        rfl
      have hrange : ∀ g ∈ (⟨place + 1, false⟩ :: groups : List Opening), g.start ≤ place + 1 :=
        List.forall_mem_cons.mpr ⟨Nat.le_refl _, fun g hg => Nat.le_succ_of_le (hgroups g hg)⟩
      rw [h.next hlt]
      exact ⟨hlt, Nat.lt_succ_self _, inRange_of_le hrange (Nat.le_refl _) (by omega), hfinish⟩
    · subst hclose
      cases groups with
      | nil =>
        have hfinish : Scanning.finish cs ⟨[], place + 1⟩ = Scanning.finish cs ⟨[], place⟩ := by
          rw [Scanning.finish, Scanning.finish, hdrop]
          simp [scan]
        rw [h.next hlt]
        exact ⟨hlt, Nat.lt_succ_self _, inRange_of_le hgroups (by omega) (by omega), hfinish⟩
      | cons g groups =>
        obtain ⟨hg, hgroups'⟩ := List.forall_mem_cons.mp hgroups
        exact closeTurn_leads h hg hgroups' hlt hdrop
    · have hfinish : Scanning.finish cs ⟨markIf (repeatsAt (cs.drop place)) groups, place + 1⟩ =
          Scanning.finish cs ⟨groups, place⟩ := by
        rw [Scanning.finish, Scanning.finish, hdrop, scan_other hback hclass hopen hclose,
          map_group_markIf]
      rw [repeatsFrom_eq h, ok_bind, h.next hlt]
      exact ⟨hlt, Nat.lt_succ_self _,
        inRange_of_le (start_le_of_markIf hgroups _) (by omega) (by omega), hfinish⟩

end ByCursor

/-- With a cursor the check of any pattern, well formed or not, asks for no character and no stretch that
is not there, computes no place that is too large, ends every loop within a turn more than a safe
pattern has characters at most, and gives the answer of the check. -/
theorem checkSafety_inRange (pattern : String) {limit : Nat} (hlimit : maxLength < limit) :
    ByCursor.check limit pattern = .ok (checkSafety pattern) := by
  rw [ByCursor.check, checkSafety, hazard?]
  split_ifs with hlong
  · rfl
  · have hlargest : maxLength + 2 ≤ Cursor.largest := by decide
    have hfits : Cursor.Fits limit pattern.toList := ⟨by omega, by omega⟩
    have hscan := hfits.turns_eq (s := ⟨[], 0⟩) (ByCursor.scanTurn_leads hfits)
      ⟨Nat.zero_le _, by simp⟩
    have hfinish : ByCursor.Scanning.finish pattern.toList ⟨[], 0⟩ = scan 0 [] pattern.toList := rfl
    rw [hscan, Cursor.ok_bind, hfinish]
    cases scan 0 [] pattern.toList <;> rfl

/-- Brackets that close nothing and an escape that is cut off, in a class that is not closed: the cursor
jumps over the end. In the second pattern it reads classes as parts of branches. -/
theorem checkSafety_inRange_torn :
    maxLength < 257 ∧ ByCursor.check 257 "(a*)])[^]\\" = .ok (.ok ()) ∧
    ByCursor.check 257 "([)]|[)]x)+[" =
      .ok (.error (.unsafePattern "([)]|[)]x)+[" .overlappingBranches)) := by
  have hlimit : maxLength < 257 := by decide
  have hsafe : checkSafety "(a*)])[^]\\" = .ok () := by decide
  have hoverlap : checkSafety "([)]|[)]x)+[" =
      .error (.unsafePattern "([)]|[)]x)+[" .overlappingBranches) := by decide
  refine ⟨hlimit, ?_, ?_⟩
  · rw [checkSafety_inRange _ hlimit, hsafe]
  · rw [checkSafety_inRange _ hlimit, hoverlap]

end NamePattern
end PromptWeave
