import PromptWeave.Proofs.NamePattern.Reported

/-! Where the check cuts a group.
It cuts at the bars outside of groups, escapes and classes. A quiet text without such bars is kept
in one piece, and so is a group. Where all nodes are kept, a group is cut into its branches. -/
namespace PromptWeave
namespace NamePattern

open Regex Regex.Node

/-! ### One step of the cut -/

theorem split_escape (depth : Nat) (cs : List Char) :
    splitBranches 0 depth ('\\' :: cs) = intoFirst '\\' (splitBranches 1 depth cs) := by
  simp [splitBranches]

theorem split_class (depth : Nat) (cs : List Char) :
    splitBranches 0 depth ('[' :: cs) =
      intoFirst '[' (splitBranches (classLength cs) depth cs) := by
  simp [splitBranches]

theorem split_open (depth : Nat) (cs : List Char) :
    splitBranches 0 depth ('(' :: cs) = intoFirst '(' (splitBranches 0 (depth + 1) cs) := by
  simp [splitBranches]

theorem split_close (depth : Nat) (cs : List Char) :
    splitBranches 0 (depth + 1) (')' :: cs) = intoFirst ')' (splitBranches 0 depth cs) := by
  simp [splitBranches]

theorem split_bar (cs : List Char) :
    splitBranches 0 0 ('|' :: cs) = [] :: splitBranches 0 0 cs := by
  simp [splitBranches]

theorem split_other {depth : Nat} {c : Char} (hbar : depth = 0 → c ≠ '|') (hback : c ≠ '\\')
    (hclass : c ≠ '[') (hopen : c ≠ '(') (hclose : c ≠ ')') (cs : List Char) :
    splitBranches 0 depth (c :: cs) = intoFirst c (splitBranches 0 depth cs) := by
  have hcut : ¬(c = '|' ∧ depth = 0) := fun he => hbar he.2 he.1
  rw [splitBranches, if_neg hcut, if_neg hback, if_neg hclass, if_neg hopen, if_neg hclose]

/-! ### Texts that are kept -/

def unbarred : (skip : Nat) → List Char → Bool
  | _, [] => true
  | skip + 1, _ :: cs => unbarred skip cs
  | 0, c :: cs =>
    if c = '\\' then unbarred 1 cs
    else if c = '[' then unbarred (classLength cs) cs
    else c != '|' && unbarred 0 cs

theorem unbarred_of_notMem {s : List Char} (h : '|' ∉ s) (skip : Nat) : unbarred skip s = true := by
  induction s generalizing skip with
  | nil => rfl
  | cons c s ih =>
    obtain ⟨hc, hs⟩ := not_or.mp (List.mem_cons.not.mp h)
    cases skip with
    | succ skip => exact ih hs skip
    | zero =>
      rw [unbarred]
      split_ifs
      · exact ih hs 1
      · exact ih hs _
      · simp [Ne.symm hc, ih hs 0]

theorem unbarred_length (cs : List Char) : unbarred cs.length cs = true := by
  induction cs with
  | nil => rfl
  | cons c cs ih => exact ih

theorem split_append {skip depth : Nat} {s : List Char} (h : quiet skip s = true)
    (hbar : depth = 0 → unbarred skip s = true) (after : List Char) :
    splitBranches skip depth (s ++ after) = s.foldr intoFirst (splitBranches 0 depth after) := by
  -- on the text, with the rest of an escape or class as `skip`
  induction s generalizing skip with
  | nil =>
    have hskip : skip = 0 := by simpa [quiet] using h
    rw [hskip]
    rfl
  | cons c s ih =>
    cases skip with
    | succ skip => exact congrArg (intoFirst c) (ih h hbar)
    | zero =>
      simp only [quiet] at h
      simp only [unbarred] at hbar
      rw [List.cons_append, List.foldr_cons]
      split_ifs at h hbar with hback hclass hparen
      · rw [hback, split_escape, ih h hbar]
      · obtain ⟨hcloses, hrest⟩ := Bool.and_eq_true_iff.mp h
        rw [hclass, split_class, classLength_append hcloses, ih hrest hbar]
      · obtain ⟨hopen, hclose⟩ := not_or.mp hparen
        have hchar : depth = 0 → c ≠ '|' := fun hdepth => by
          simpa using (Bool.and_eq_true_iff.mp (hbar hdepth)).1
        have hrest : depth = 0 → unbarred 0 s = true := fun hdepth =>
          (Bool.and_eq_true_iff.mp (hbar hdepth)).2
        rw [split_other hchar hback hclass hopen hclose, ih (Bool.and_eq_true_iff.mp h).2 hrest]

/-- Inside of `depth` groups the text is put in front of what follows in one piece. -/
def Kept (depth : Nat) (s : List Char) : Prop :=
  ∀ after, splitBranches 0 depth (s ++ after) = s.foldr intoFirst (splitBranches 0 depth after)

theorem kept_of_quiet {depth : Nat} {s : List Char} (h : quiet 0 s = true)
    (hbar : depth = 0 → unbarred 0 s = true) : Kept depth s := split_append h hbar

theorem Kept.append {depth : Nat} {s t : List Char} (hs : Kept depth s) (ht : Kept depth t) :
    Kept depth (s ++ t) := by
  intro after
  rw [List.append_assoc, hs, ht, List.foldr_append]

theorem Kept.parens {depth : Nat} {s : List Char} (h : Kept (depth + 1) s) :
    Kept depth ('(' :: (s ++ [')'])) := by
  intro after
  have htext : '(' :: (s ++ [')']) ++ after = '(' :: (s ++ ')' :: after) := by simp
  rw [htext, split_open, h, split_close, List.foldr_cons, List.foldr_append]
  rfl

/-! ### Nodes that are kept -/

/-- Whether no bar stands in the text of a node where the check could cut. Parentheses keep theirs
in one piece. -/
def barless : Node → Bool
  | .flags _ _ | .group _ _ _ => true
  | n => unbarred 0 (words n)

def Whole (n : Node) : Prop := Sound n ∧ barless n = true

mutual
theorem kept_node : (n : Node) → (∀ m ∈ within n, Whole m) → (depth : Nat) → Kept depth n.source
  | .blank s, h, depth => by
    obtain ⟨⟨-, hquiet⟩, hbar⟩ := h _ (mem_within_self _)
    exact kept_of_quiet hquiet fun _ => hbar
  | .atom s a, h, depth => by
    obtain ⟨⟨-, hquiet⟩, hbar⟩ := h _ (mem_within_self _)
    exact kept_of_quiet hquiet fun _ => hbar
  | .flags s fs, h, depth => by
    obtain ⟨⟨⟨v, inner, rfl, -⟩, hquiet⟩, -⟩ := h _ (mem_within_self _)
    have hwords : words (.flags ('(' :: (inner ++ [')'])) fs) = inner := by simp [words]
    rw [hwords] at hquiet
    exact (kept_of_quiet hquiet (by simp)).parens
  | .repeated n s q, h, depth => by
    obtain ⟨⟨-, hquiet⟩, hbar⟩ := h _ (mem_within_self _)
    have hnode := kept_node n (fun m hm => h m (List.mem_cons_of_mem _ hm)) depth
    exact hnode.append (kept_of_quiet hquiet fun _ => hbar)
  | .group opener kind branches, h, depth => by
    obtain ⟨⟨⟨v, more, rfl, -⟩, hquiet⟩, -⟩ := h _ (mem_within_self _)
    rw [words, List.tail_cons] at hquiet
    have hopener : Kept (depth + 1) more := kept_of_quiet hquiet (by simp)
    have hbranches := kept_branches branches (fun m hm => h m (List.mem_cons_of_mem _ hm)) depth
    simpa [source] using (hopener.append hbranches).parens
theorem kept_all : (ns : List Node) → (∀ m ∈ withinAll ns, Whole m) → (depth : Nat) →
    Kept depth (sourceAll ns)
  | [], _, _ => fun _ => rfl
  | n :: ns, h, depth => by
    have hn := kept_node n (fun m hm => h m (List.mem_append_left _ hm)) depth
    exact hn.append (kept_all ns (fun m hm => h m (List.mem_append_right _ hm)) depth)
/-- Bars inside of a group do not cut what is around it. -/
theorem kept_branches : (bs : List (List Node)) → (∀ m ∈ withinBranches bs, Whole m) →
    (depth : Nat) → Kept (depth + 1) (sourceBranches bs)
  | [], _, _ => fun _ => rfl
  | [b], h, depth => by
    rw [sourceBranches]
    exact kept_all b (fun m hm => h m (List.mem_append_left _ hm)) (depth + 1)
  | b :: b' :: bs, h, depth => by
    have hb := kept_all b (fun m hm => h m (List.mem_append_left _ hm)) (depth + 1)
    have hbar : Kept (depth + 1) ['|'] := kept_of_quiet (by decide) (by simp)
    have hbs := kept_branches (b' :: bs) (fun m hm => h m (List.mem_append_right _ hm)) depth
    rw [sourceBranches]
    · exact hb.append (hbar.append hbs)
    · simp
end

theorem foldr_intoFirst (s b : List Char) (bs : List (List Char)) :
    s.foldr intoFirst (b :: bs) = (s ++ b) :: bs := by
  induction s with
  | nil => rfl
  | cons c s ih => rw [List.foldr_cons, ih]; rfl

/-- A group is cut into its branches. -/
theorem split_sourceBranches {bs : List (List Node)} (hne : bs ≠ [])
    (h : ∀ m ∈ withinBranches bs, Whole m) :
    splitBranches 0 0 (sourceBranches bs) = bs.map sourceAll := by
  induction bs with
  | nil => exact absurd rfl hne
  | cons b bs ih =>
    have hb := kept_all b (fun m hm => h m (List.mem_append_left _ hm)) 0
    cases bs with
    | nil =>
      have hend := hb []
      rw [List.append_nil] at hend
      rw [sourceBranches, hend, splitBranches, foldr_intoFirst, List.append_nil]
      rfl
    | cons b' bs =>
      have hbs := ih (by simp) fun m hm => h m (List.mem_append_right _ hm)
      rw [sourceBranches, hb, split_bar, hbs, foldr_intoFirst, List.append_nil]
      · rfl
      · simp

end NamePattern
end PromptWeave
