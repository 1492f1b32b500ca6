import PromptWeave.Proofs.NamePattern.Legible

/-! What the check reports.
In a legible pattern it reports the groups with a repetition right behind them that hold a repetition,
or have branches that begin alike. -/
namespace PromptWeave
namespace NamePattern

open Regex Regex.Node

/-- Whether a repetition is met among nodes. -/
def seen (nodes : List Node) : Bool := nodes.any fun n => sees 0 (words n)

@[simp] theorem seen_nil : seen [] = false := rfl

@[simp] theorem seen_cons (n : Node) (ns : List Node) : seen (n :: ns) = (sees 0 (words n) || seen ns) :=
  rfl

@[simp] theorem seen_append (ms ns : List Node) : seen (ms ++ ns) = (seen ms || seen ns) := by
  simp [seen]

/-- Whether a node is a group that must not be repeated. -/
def hazardous : Node → Bool
  | .group opener kind branches => seen (within (.group opener kind branches)) ||
      branchesOverlap (opener.tail ++ sourceBranches branches)
  | _ => false

/-- Whether a node is a group that must not be repeated, with a repetition right behind it. -/
def reported : Node → Bool
  | .repeated n s _ => repeatsAt s && hazardous n
  | _ => false

/-! ### What may follow a group -/

theorem repeatsAt_of_notMem {c : Char} (h : c ∉ quantifierMarks) (cs : List Char) :
    repeatsAt (c :: cs) = false := by
  simp only [quantifierMarks, List.mem_cons, List.not_mem_nil, or_false, not_or] at h
  obtain ⟨-, hstar, hplus, hbrace⟩ := h
  simp [repeatsAt, hstar, hplus, hbrace]

theorem source_begins : (n : Node) → (∀ m ∈ within n, ∃ v, m.Proper v) →
    ∃ c cs, n.source = c :: cs ∧ c ∉ quantifierMarks
  | .blank s, h => by
    obtain ⟨v, hne, hgap⟩ := h _ (mem_within_self _)
    obtain ⟨-, c, more, rfl, hc⟩ := hgap.resolve_left hne
    refine ⟨c, more, rfl, fun hmem => ?_⟩
    have hmarks : quantifierMarks.any (fun c => Text.isBlank c || c == '#') = false := by decide
    exact List.any_eq_false.mp hmarks c hmem (by simpa using hc)
  | .atom s a, h => by
    obtain ⟨v, c, more, rfl, -, -, hc, -⟩ := h _ (mem_within_self _)
    exact ⟨c, more, rfl, hc⟩
  | .flags s fs, h => by
    obtain ⟨v, inner, rfl, -⟩ := h _ (mem_within_self _)
    exact ⟨'(', inner ++ [')'], rfl, by decide⟩
  | .repeated n s q, h => by
    obtain ⟨c, cs, he, hc⟩ := source_begins n fun m hm => h m (List.mem_cons_of_mem _ hm)
    exact ⟨c, cs ++ s, by rw [source, he, List.cons_append], hc⟩
  | .group opener kind branches, h => by
    obtain ⟨v, more, rfl, -⟩ := h _ (mem_within_self _)
    exact ⟨'(', more ++ sourceBranches branches ++ [')'], rfl, by decide⟩

theorem repeatsAt_source (n : Node) (h : ∀ m ∈ within n, ∃ v, m.Proper v) (rest : List Char) :
    repeatsAt (n.source ++ rest) = false := by
  obtain ⟨c, cs, he, hc⟩ := source_begins n h
  rw [he, List.cons_append]
  exact repeatsAt_of_notMem hc _

/-- What follows a quiet text has no part in its repetition. -/
theorem repeatsAt_append_of_quiet {s : List Char} (h : quiet 0 s = true) (hne : s ≠ [])
    (rest : List Char) : repeatsAt (s ++ rest) = repeatsAt s := by
  obtain ⟨c, cs, rfl⟩ := List.exists_cons_of_ne_nil hne
  by_cases hc : c ∈ special
  · have hmark : c ∉ quantifierMarks := by
      have hapart : special.any quantifierMarks.contains = false := by decide
      simpa using List.any_eq_false.mp hapart c hc
    rw [List.cons_append, repeatsAt_of_notMem hmark, repeatsAt_of_notMem hmark]
  · rw [quiet_cons hc] at h
    exact repeatsAt_append (Bool.and_eq_true_iff.mp h).1 rest

/-! ### The check over nodes -/

/-- The check over a text in front of `after`: it reports something, or it goes on behind the text
and has marked the innermost group at most. -/
def Passes (found repeats : Bool) (s : List Char) (groups : List OpenGroup) (after : List Char) :
    Prop :=
  if found then ∃ h, scan 0 groups (s ++ after) = some h
  else scan 0 groups (s ++ after) = scan 0 (mark repeats groups) after

theorem passes_of_quiet {s : List Char} (h : quiet 0 s = true) (groups : List OpenGroup)
    (after : List Char) : Passes false (sees 0 s) s groups after := scan_append h groups after

theorem Passes.append {found found' repeats repeats' : Bool} {s s' : List Char}
    {groups : List OpenGroup} {after : List Char}
    (h : Passes found repeats s groups (s' ++ after))
    (h' : Passes found' repeats' s' (mark repeats groups) after) :
    Passes (found || found') (repeats || repeats') (s ++ s') groups after := by
  unfold Passes at h h' ⊢
  rw [List.append_assoc]
  cases found with
  | true => exact h
  | false =>
    rw [if_neg (by simp)] at h
    rw [h, Bool.false_or, ← mark_mark]
    exact h'

theorem scan_close (g : OpenGroup) (groups : List OpenGroup) (cs : List Char) :
    scan 0 (g :: groups) (')' :: cs) =
      if repeatsAt cs then
        if g.repeats then some .nestedQuantifier
        else if branchesOverlap (g.inside.take (g.inside.length - (cs.length + 1))) then
          some .overlappingBranches
        else scan 0 groups cs
      else scan 0 (mark g.repeats groups) cs := by
  simp [scan, mark]

theorem mark_open (repeats : Bool) (inside : List Char) (groups : List OpenGroup) :
    mark repeats (⟨inside, false⟩ :: groups) = ⟨inside, repeats⟩ :: groups := by
  cases repeats <;> rfl

/-- A text between parentheses. -/
theorem Passes.parens {found repeats : Bool} {s : List Char} {groups : List OpenGroup}
    {after : List Char}
    (h : Passes found repeats s (⟨s ++ ')' :: after, false⟩ :: groups) (')' :: after)) :
    Passes (found || (repeatsAt after && (repeats || branchesOverlap s))) repeats
      ('(' :: (s ++ [')'])) groups after := by
  have htext : '(' :: (s ++ [')']) ++ after = '(' :: (s ++ ')' :: after) := by simp
  have hinside : (s ++ ')' :: after).take ((s ++ ')' :: after).length - (after.length + 1)) = s := by
    simp
  unfold Passes at h ⊢
  rw [htext, scan_open]
  cases found with
  | true => simpa using h
  | false =>
    rw [if_neg (by simp), mark_open, scan_close] at h
    simp only [hinside] at h
    rw [h, Bool.false_or]
    by_cases hafter : repeatsAt after = true
    · by_cases hrepeats : repeats = true
      · simp [hafter, hrepeats]
      · by_cases hoverlap : branchesOverlap s = true
        · simp [hafter, hrepeats, hoverlap]
        · simp [hafter, hrepeats, hoverlap]
    · simp [hafter]

def Sound (n : Node) : Prop := (∃ v, n.Proper v) ∧ quiet 0 (words n) = true

mutual
theorem scan_node : (n : Node) → (∀ m ∈ within n, Sound m) → (groups : List OpenGroup) →
    (after : List Char) → (n.repeatable = false → repeatsAt after = false) →
    Passes ((within n).any reported || (repeatsAt after && hazardous n)) (seen (within n)) n.source
      groups after
  | .blank s, h, groups, after, _ => by
    simpa [within, reported, hazardous, source, words] using
      passes_of_quiet (h _ (mem_within_self _)).2 groups after
  | .atom s a, h, groups, after, _ => by
    simpa [within, reported, hazardous, source, words] using
      passes_of_quiet (h _ (mem_within_self _)).2 groups after
  | .flags s fs, h, groups, after, hafter => by
    obtain ⟨⟨v, inner, rfl, -⟩, hquiet⟩ := h _ (mem_within_self _)
    have hwords : words (.flags ('(' :: (inner ++ [')'])) fs) = inner := by simp [words]
    rw [hwords] at hquiet
    have hparens : Passes _ _ _ groups after := (passes_of_quiet hquiet _ _).parens
    simpa [within, reported, hazardous, source, hwords, hafter rfl] using hparens
  | .repeated n s q, h, groups, after, _ => by
    obtain ⟨⟨v, hn, blank, c, more, rfl, -⟩, hquiet⟩ := h _ (mem_within_self _)
    rw [words] at hquiet
    have hnode := scan_node n (fun m hm => h m (List.mem_cons_of_mem _ hm)) groups
      (blank ++ c :: more ++ after) (by simp [hn])
    rw [repeatsAt_append_of_quiet hquiet (by simp)] at hnode
    have hboth := hnode.append (passes_of_quiet hquiet _ after)
    simpa [within, reported, hazardous, source, words, Bool.or_comm] using hboth
  | .group opener kind branches, h, groups, after, _ => by
    obtain ⟨⟨v, more, rfl, -⟩, hquiet⟩ := h _ (mem_within_self _)
    rw [words, List.tail_cons] at hquiet
    have hopener := passes_of_quiet hquiet
      (⟨more ++ sourceBranches branches ++ ')' :: after, false⟩ :: groups)
      (sourceBranches branches ++ ')' :: after)
    have hbranches := scan_branches branches (fun m hm => h m (List.mem_cons_of_mem _ hm))
      (mark (sees 0 more) (⟨more ++ sourceBranches branches ++ ')' :: after, false⟩ :: groups))
      (')' :: after) (repeatsAt_of_notMem (by decide) _)
    have hparens := (hopener.append hbranches).parens
    simpa [within, reported, hazardous, source, words] using hparens
theorem scan_all : (ns : List Node) → (∀ m ∈ withinAll ns, Sound m) → (groups : List OpenGroup) →
    (after : List Char) → repeatsAt after = false →
    Passes ((withinAll ns).any reported) (seen (withinAll ns)) (sourceAll ns) groups after
  | [], _, _, _, _ => by simp [Passes, withinAll, sourceAll]
  | n :: ns, h, groups, after, hafter => by
    have hn : ∀ m ∈ within n, Sound m := fun m hm => h m (List.mem_append_left _ hm)
    have hns : ∀ m ∈ withinAll ns, Sound m := fun m hm => h m (List.mem_append_right _ hm)
    have hnext : repeatsAt (sourceAll ns ++ after) = false := by
      cases ns with
      | nil => exact hafter
      | cons n' ns =>
        rw [sourceAll, List.append_assoc]
        exact repeatsAt_source n' (fun m hm => (hns m (List.mem_append_left _ hm)).1) _
    have hnode := scan_node n hn groups (sourceAll ns ++ after) fun _ => hnext
    have hrest := scan_all ns hns (mark (seen (within n)) groups) after hafter
    simpa [withinAll, sourceAll, hnext] using hnode.append hrest
theorem scan_branches : (bs : List (List Node)) → (∀ m ∈ withinBranches bs, Sound m) →
    (groups : List OpenGroup) → (after : List Char) → repeatsAt after = false →
    Passes ((withinBranches bs).any reported) (seen (withinBranches bs)) (sourceBranches bs) groups
      after
  | [], _, _, _, _ => by simp [Passes, withinBranches, sourceBranches]
  | [b], h, groups, after, hafter => by
    have hb : ∀ m ∈ withinAll b, Sound m := fun m hm => h m (List.mem_append_left _ hm)
    simpa [withinBranches, sourceBranches] using scan_all b hb groups after hafter
  | b :: b' :: bs, h, groups, after, hafter => by
    have hb : ∀ m ∈ withinAll b, Sound m := fun m hm => h m (List.mem_append_left _ hm)
    have hbs : ∀ m ∈ withinBranches (b' :: bs), Sound m := fun m hm =>
      h m (List.mem_append_right _ hm)
    have hsees : sees 0 ['|'] = false := by decide
    have hfirst := scan_all b hb groups (['|'] ++ sourceBranches (b' :: bs) ++ after)
      (repeatsAt_of_notMem (by decide) _)
    have hbar := passes_of_quiet (s := ['|']) (by decide) (mark (seen (withinAll b)) groups)
      (sourceBranches (b' :: bs) ++ after)
    have hrest := scan_branches (b' :: bs) hbs (mark (sees 0 ['|']) (mark (seen (withinAll b)) groups))
      after hafter
    have hall := hfirst.append (hbar.append hrest)
    rw [withinBranches, sourceBranches]
    · simpa [hsees] using hall
    · simp
end

/-- A legible pattern is unsafe if and only if something in it is reported, or it is too long. -/
theorem hazard?_isSome {pattern : List Char} {branches : Branches}
    (hlength : pattern.length ≤ maxLength) (h : parse pattern = some branches)
    (hlegible : legible branches = true) :
    (hazard? pattern).isSome = (withinBranches branches).any reported := by
  have hsound : ∀ m ∈ withinBranches branches, Sound m := fun m hm =>
    ⟨proper_of_parse h m hm, List.all_eq_true.mp hlegible m hm⟩
  have hscan := scan_branches branches hsound [] [] rfl
  rw [sourceBranches_of_parse h] at hscan
  rw [hazard?, if_neg (by omega)]
  unfold Passes at hscan
  rw [List.append_nil] at hscan
  split_ifs at hscan with hreported
  · obtain ⟨hazard, he⟩ := hscan
    simp [he, hreported]
  · have hend : ∀ groups, scan 0 groups [] = none := fun groups => rfl
    simp [hscan, hend, hreported]

end NamePattern
end PromptWeave
