import Mathlib.Data.List.TakeWhile
import Mathlib.Tactic.SplitIfs
import PromptWeave.NamePattern.Safety

/-! Texts that the check passes over.
A quiet text holds no parenthesis, and no escape, class or count goes on behind it. Reading it leaves
no more than the mark of a repetition. -/
namespace PromptWeave
namespace NamePattern

/-! ### Classes and counts that end in a text -/

def tailCloses : List Char → Bool
  | [] => false
  | ['\\'] => false
  | '\\' :: _ :: cs => tailCloses cs
  | ']' :: _ => true
  | _ :: cs => tailCloses cs

def closes : List Char → Bool
  | '^' :: ']' :: cs => tailCloses cs
  | '^' :: cs => tailCloses cs
  | ']' :: cs => tailCloses cs
  | cs => tailCloses cs

theorem classTail_cons {c : Char} (hback : c ≠ '\\') (hclose : c ≠ ']') (cs : List Char) :
    classTail (c :: cs) = classTail cs + 1 := by
  rw [classTail]
  · exact fun he => absurd he hback
  · exact fun _ _ he => absurd he hback
  · exact hclose

theorem tailCloses_cons {c : Char} (hback : c ≠ '\\') (hclose : c ≠ ']') (cs : List Char) :
    tailCloses (c :: cs) = tailCloses cs := by
  rw [tailCloses]
  · exact fun he => absurd he hback
  · exact fun _ _ he => absurd he hback
  · exact hclose

theorem classTail_append {cs : List Char} (h : tailCloses cs = true) (rest : List Char) :
    classTail (cs ++ rest) = classTail cs := by
  fun_induction tailCloses cs with
  | case1 => simp at h
  | case2 => simp at h
  | case3 c cs ih => simp [classTail, ih h]
  | case4 cs => simp [classTail]
  | case5 c cs hend hescaped hclose ih =>
    have hback : c ≠ '\\' := fun he => by
      cases cs with
      | nil => exact hend he rfl
      | cons d ds => exact hescaped d ds he rfl
    rw [List.cons_append, classTail_cons hback hclose, classTail_cons hback hclose, ih h]

theorem classLength_caret {cs : List Char} (h : cs.head? ≠ some ']') :
    classLength ('^' :: cs) = classTail cs + 1 := by
  cases cs with
  | nil => rfl
  | cons c cs =>
    have hc : c ≠ ']' := by simpa using h
    rw [classLength]
    exact fun _ he => hc (List.cons.inj he).1

theorem classLength_other {c : Char} (hcaret : c ≠ '^') (hclose : c ≠ ']') (cs : List Char) :
    classLength (c :: cs) = classTail (c :: cs) := by
  rw [classLength]
  · exact fun _ he => hcaret (List.cons.inj he).1
  · exact fun _ he => hcaret (List.cons.inj he).1
  · exact fun _ he => hclose (List.cons.inj he).1

theorem closes_caret {cs : List Char} (h : cs.head? ≠ some ']') :
    closes ('^' :: cs) = tailCloses cs := by
  cases cs with
  | nil => rfl
  | cons c cs =>
    have hc : c ≠ ']' := by simpa using h
    rw [closes]
    exact fun _ he => hc (List.cons.inj he).1

theorem closes_other {c : Char} (hcaret : c ≠ '^') (hclose : c ≠ ']') (cs : List Char) :
    closes (c :: cs) = tailCloses (c :: cs) := by
  rw [closes]
  · exact fun _ he => hcaret (List.cons.inj he).1
  · exact fun _ he => hcaret (List.cons.inj he).1
  · exact fun _ he => hclose (List.cons.inj he).1

theorem classLength_append {cs : List Char} (h : closes cs = true) (rest : List Char) :
    classLength (cs ++ rest) = classLength cs := by
  unfold closes at h
  split at h
  next cs => simp [classLength, classTail_append h]
  next cs hclose =>
    have hne : cs ≠ [] := fun he => by simp [he, tailCloses] at h
    obtain ⟨c, cs, rfl⟩ := List.exists_cons_of_ne_nil hne
    have hc : c ≠ ']' := fun he => hclose cs (by rw [he])
    have hhead : (c :: cs ++ rest).head? ≠ some ']' := by simpa using hc
    have hhead' : (c :: cs).head? ≠ some ']' := by simpa using hc
    rw [List.cons_append, classLength_caret hhead, classLength_caret hhead', classTail_append h]
  next cs => simp [classLength, classTail_append h]
  next hcaret' hcaret hclose =>
    have hne : cs ≠ [] := fun he => by simp [he, tailCloses] at h
    obtain ⟨c, cs, rfl⟩ := List.exists_cons_of_ne_nil hne
    have hc : c ≠ '^' := fun he => hcaret cs (by rw [he])
    have hc' : c ≠ ']' := fun he => hclose cs (by rw [he])
    rw [List.cons_append, classLength_other hc hc', classLength_other hc hc', ← List.cons_append,
      classTail_append h]

/-- Whether it is clear in the text if a count stands here. -/
def settled : List Char → Bool
  | [] => true
  | c :: cs => c != '\x7b' || !(cs.dropWhile isCountChar).isEmpty

theorem repeatsAt_append {c : Char} {cs : List Char} (h : settled (c :: cs) = true)
    (rest : List Char) : repeatsAt (c :: cs ++ rest) = repeatsAt (c :: cs) := by
  rw [List.cons_append, repeatsAt, repeatsAt]
  split_ifs with hmark hbrace
  · rfl
  · have hdrop : cs.dropWhile isCountChar ≠ [] := by simpa [settled, hbrace] using h
    have hlength : (cs.takeWhile isCountChar).length ≠ cs.length := fun he => hdrop <| by
      have hsplit := congrArg List.length (List.takeWhile_append_dropWhile (p := isCountChar) (l := cs))
      rw [List.length_append] at hsplit
      exact List.length_eq_zero_iff.mp (by omega)
    obtain ⟨d, ds, hrest⟩ := List.exists_cons_of_ne_nil hdrop
    rw [List.takeWhile_append, if_neg hlength, List.dropWhile_append, hrest]
    rfl
  · rfl

/-! ### One step of the check -/

/-- The open groups behind a part of a pattern. -/
def mark (repeats : Bool) (groups : List OpenGroup) : List OpenGroup :=
  if repeats then markRepeat groups else groups

@[simp] theorem mark_false (groups : List OpenGroup) : mark false groups = groups := rfl

@[simp] theorem mark_mark (a b : Bool) (groups : List OpenGroup) :
    mark b (mark a groups) = mark (a || b) groups := by
  cases a <;> cases b <;> cases groups <;> rfl

theorem scan_escape (groups : List OpenGroup) (cs : List Char) :
    scan 0 groups ('\\' :: cs) = scan 1 groups cs := by simp [scan]

theorem scan_class (groups : List OpenGroup) (cs : List Char) :
    scan 0 groups ('[' :: cs) = scan (classLength cs) groups cs := by simp [scan]

theorem scan_open (groups : List OpenGroup) (cs : List Char) :
    scan 0 groups ('(' :: cs) = scan 0 (⟨cs, false⟩ :: groups) cs := by simp [scan]

theorem scan_other {c : Char} (hback : c ≠ '\\') (hclass : c ≠ '[') (hopen : c ≠ '(')
    (hclose : c ≠ ')') (groups : List OpenGroup) (cs : List Char) :
    scan 0 groups (c :: cs) = scan 0 (mark (repeatsAt (c :: cs)) groups) cs := by
  simp only [scan, if_neg hback, if_neg hclass, if_neg hopen, if_neg hclose, mark]

/-! ### Quiet texts -/

def quiet : (skip : Nat) → List Char → Bool
  | skip, [] => skip == 0
  | skip + 1, _ :: cs => quiet skip cs
  | 0, c :: cs =>
    if c = '\\' then quiet 1 cs
    else if c = '[' then closes cs && quiet (classLength cs) cs
    else if c = '(' ∨ c = ')' then false
    else settled (c :: cs) && quiet 0 cs

def sees : (skip : Nat) → List Char → Bool
  | _, [] => false
  | skip + 1, _ :: cs => sees skip cs
  | 0, c :: cs =>
    if c = '\\' then sees 1 cs
    else if c = '[' then sees (classLength cs) cs
    else repeatsAt (c :: cs) || sees 0 cs

/-- All that a quiet text does is to mark the innermost group. -/
theorem scan_append {skip : Nat} {s : List Char} (h : quiet skip s = true)
    (groups : List OpenGroup) (after : List Char) :
    scan skip groups (s ++ after) = scan 0 (mark (sees skip s) groups) after := by
  induction s generalizing skip groups with
  | nil =>
    have hskip : skip = 0 := by simpa [quiet] using h
    simp [hskip, sees]
  | cons c s ih =>
    cases skip with
    | succ skip =>
      have hrest : quiet skip s = true := h
      exact ih hrest groups
    | zero =>
      simp only [quiet] at h
      simp only [sees]
      split_ifs at h ⊢ with hback hclass hparen
      · rw [hback, List.cons_append, scan_escape, ih h]
      · obtain ⟨hcloses, hrest⟩ := Bool.and_eq_true_iff.mp h
        rw [hclass, List.cons_append, scan_class, classLength_append hcloses, ih hrest]
      · obtain ⟨hopen, hclose⟩ := not_or.mp hparen
        obtain ⟨hsettled, hrest⟩ := Bool.and_eq_true_iff.mp h
        have hrepeats := repeatsAt_append hsettled after
        rw [List.cons_append] at hrepeats
        rw [List.cons_append, scan_other hback hclass hopen hclose, ih hrest, hrepeats, mark_mark]

/-- The characters that the check does not pass over one by one. -/
def special : List Char := ['(', ')', '[', '\\']

theorem quiet_cons {c : Char} (hc : c ∉ special) (cs : List Char) :
    quiet 0 (c :: cs) = (settled (c :: cs) && quiet 0 cs) := by
  simp only [special, List.mem_cons, List.not_mem_nil, or_false, not_or] at hc
  obtain ⟨hopen, hclose, hclass, hback⟩ := hc
  simp [quiet, hback, hclass, hopen, hclose]

/-- A text without special characters is quiet if no count can go on behind it. -/
theorem quiet_concat {s : List Char} {e : Char} (hs : ∀ c ∈ s ++ [e], c ∉ special)
    (hbrace : e ≠ '\x7b') (hcount : isCountChar e = false) : quiet 0 (s ++ [e]) = true := by
  induction s with
  | nil =>
    have he : e ∉ special := hs e (by simp)
    rw [List.nil_append, quiet_cons he]
    simp [settled, hbrace, quiet]
  | cons c s ih =>
    obtain ⟨hc, hrest⟩ := List.forall_mem_cons.mp hs
    have hsettled : settled (c :: (s ++ [e])) = true := by
      have hdrop : (s ++ [e]).dropWhile isCountChar ≠ [] := fun hnil => by
        have hall := List.dropWhile_eq_nil_iff.mp hnil e (by simp)
        simp [hcount] at hall
      simp [settled, hdrop]
    rw [List.cons_append, quiet_cons hc, hsettled, ih hrest]
    rfl

theorem quiet_of_noBrace {s : List Char} (hs : ∀ c ∈ s, c ∉ special) (hbrace : '\x7b' ∉ s) :
    quiet 0 s = true := by
  induction s with
  | nil => rfl
  | cons c s ih =>
    obtain ⟨hc, hrest⟩ := List.forall_mem_cons.mp hs
    obtain ⟨hne, hbrace'⟩ := not_or.mp (List.mem_cons.not.mp hbrace)
    have hsettled : settled (c :: s) = true := by simp [settled, Ne.symm hne]
    rw [quiet_cons hc, hsettled, ih hrest hbrace']
    rfl

end NamePattern
end PromptWeave
