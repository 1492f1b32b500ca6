import PromptWeave.Proofs.NamePattern.Branching
import PromptWeave.Proofs.NamePattern.Nested
import PromptWeave.Proofs.Regex.Meaning

/-! Branches that begin alike.
In a plain pattern that has a meaning the check compares the branches of a repeated group, unless
the group has a name. In a named group it compares the pieces of what stands behind the first colon,
and nothing where there is no colon. -/
namespace PromptWeave
namespace NamePattern

open Regex Regex.Node

/-! ### Texts that begin alike -/

def SomeAlike (texts : List (List Char)) : Prop :=
  ∃ a b, [a, b].Sublist texts ∧ (a <+: b ∨ b <+: a)

theorem comparable_iff {a b : List Char} : comparable a b = true ↔ a <+: b ∨ b <+: a := by
  simp [comparable]

theorem anyComparable_iff {texts : List (List Char)} :
    anyComparable texts = true ↔ SomeAlike texts := by
  induction texts with
  | nil => simp [anyComparable, SomeAlike]
  | cons t ts ih =>
    rw [anyComparable, Bool.or_eq_true, ih, List.any_eq_true]
    constructor
    · rintro (⟨b, hb, halike⟩ | ⟨a, b, hsub, halike⟩)
      · exact ⟨t, b, (List.singleton_sublist.mpr hb).cons_cons t, comparable_iff.mp halike⟩
      · exact ⟨a, b, hsub.cons t, halike⟩
    · rintro ⟨a, b, hsub, halike⟩
      rcases List.sublist_cons_iff.mp hsub with hsub | ⟨rest, he, hrest⟩
      · exact Or.inr ⟨a, b, hsub, halike⟩
      · cases he
        exact Or.inl ⟨b, List.singleton_sublist.mp hrest, comparable_iff.mpr halike⟩

/-! ### What is compared in a group -/

/-- The texts that the check compares: the branches, or in a named group the pieces of what stands
behind its first colon. -/
def compared (opener : List Char) (kind : GroupKind) (branches : Branches) : List (List Char) :=
  match kind with
  | .named _ => match Text.cutAt? ':' (opener ++ sourceBranches branches) with
    | some (_, rest) => splitBranches 0 0 rest
    | none => []
  | .capture | .plain _ => branches.map sourceAll

theorem head?_sourceAll {ns : List Node} (h : ∀ m ∈ withinAll ns, ∃ v, m.Proper v)
    {after : List Char} (hafter : after.head? ≠ some '?') :
    (sourceAll ns ++ after).head? ≠ some '?' := by
  cases ns with
  | nil => exact hafter
  | cons n ns =>
    obtain ⟨c, cs, he, hc⟩ := source_begins n fun m hm => h m (List.mem_append_left _ hm)
    rw [sourceAll, he]
    rintro ⟨⟩
    exact hc (by decide)

theorem head?_sourceBranches {bs : List (List Node)}
    (h : ∀ m ∈ withinBranches bs, ∃ v, m.Proper v) : (sourceBranches bs).head? ≠ some '?' := by
  cases bs with
  | nil => simp [sourceBranches]
  | cons b bs =>
    have hb : ∀ m ∈ withinAll b, ∃ v, m.Proper v := fun m hm => h m (List.mem_append_left _ hm)
    cases bs with
    | nil =>
      have hhead : (sourceAll b ++ []).head? ≠ some '?' := head?_sourceAll hb (by simp)
      rwa [List.append_nil] at hhead
    | cons b' bs =>
      rw [sourceBranches]
      · exact head?_sourceAll hb (by simp)
      · simp

theorem withoutFlags_of_head? {cs : List Char} (h : cs.head? ≠ some '?') :
    withoutFlags cs = cs := by
  cases cs with
  | nil => rfl
  | cons c cs =>
    rw [withoutFlags]
    rintro rest ⟨rfl⟩
    exact h rfl

theorem anyComparable_branches {bs : List (List Node)} (h : ∀ m ∈ withinBranches bs, Whole m) :
    anyComparable (splitBranches 0 0 (sourceBranches bs)) = anyComparable (bs.map sourceAll) := by
  by_cases hne : bs = []
  · rw [hne]
    rfl
  · rw [split_sourceBranches hne h]

/-- The inside of a group is compared as it is, or from behind its first colon. -/
theorem branchesOverlap_iff {opener : List Char} {kind : GroupKind} {branches : Branches}
    (hproper : (Node.group opener kind branches).Proper false)
    (h : ∀ m ∈ withinBranches branches, Whole m) :
    branchesOverlap (opener.tail ++ sourceBranches branches) = true ↔
      SomeAlike (compared opener kind branches) := by
  rw [← anyComparable_iff]
  obtain ⟨more, rfl, hopens⟩ := hproper
  rw [List.tail_cons, branchesOverlap]
  cases kind with
  | capture =>
    have hmore : more = [] := hopens rfl
    have hhead := head?_sourceBranches fun m hm => (h m hm).1.1
    rw [hmore, List.nil_append, withoutFlags_of_head? hhead, anyComparable_branches h, compared]
  | plain fs =>
    obtain ⟨flags, rfl, hflags⟩ := hopens rfl
    have hcolon : ':' ∉ flags := fun hmem =>
      absurd (List.all_eq_true.mp hflags ':' hmem) (by decide)
    have hinside : withoutFlags ('?' :: (flags ++ [':']) ++ sourceBranches branches) =
        sourceBranches branches := by
      rw [List.cons_append, List.append_assoc, List.singleton_append, withoutFlags,
        Text.cutAt?_append hcolon]
    rw [hinside, anyComparable_branches h, compared]
  | named name =>
    obtain ⟨rest, rfl⟩ : ∃ rest, more = '?' :: rest := by
      rcases (hopens rfl).2 with rfl | rfl
      · exact ⟨_, rfl⟩
      · exact ⟨_, rfl⟩
    -- no colon stands in front of the name, so the first one is the one that the check cuts at
    have hcut : Text.cutAt? ':' ('(' :: '?' :: rest ++ sourceBranches branches) =
        (Text.cutAt? ':' (rest ++ sourceBranches branches)).map
          fun cut => ('(' :: '?' :: cut.1, cut.2) := by
      simp [Text.cutAt?, Function.comp_def]
    rw [List.cons_append, withoutFlags, compared, hcut]
    cases Text.cutAt? ':' (rest ++ sourceBranches branches) with
    | none => decide
    | some cut => rfl

/-! ### What the check finds -/

theorem notMem_of_quantifierText {q : Quantifier} {c : Char} {cs : List Char}
    (h : QuantifierText q c cs) : '|' ∉ c :: cs := by
  obtain ⟨lazy, hlazy, ⟨rfl, hc⟩ | ⟨inner, rfl, rfl, -, hcount, -⟩⟩ := h
  · rcases hlazy with rfl | rfl <;> rcases hc with ⟨rfl, -⟩ | ⟨rfl, -⟩ | ⟨rfl, -⟩ <;> decide
  · have hinner : '|' ∉ inner := fun hmem => absurd (List.all_eq_true.mp hcount _ hmem) (by decide)
    rcases hlazy with rfl | rfl <;> simp [hinner]

theorem notMem_of_tame {cs : List Char} (h : Tame .names cs) : '|' ∉ cs := by
  have hbar : Alphabet.names.has '|' = false := by decide
  rcases h with hwords | ⟨_, rfl, inner, rfl, hinner⟩
  · exact notMem_of_words hwords hbar
  · simp [notMem_of_words hinner hbar]

/-- In a readable node that asks for properties with names that exist there is no bar to cut at. -/
theorem whole_of_readable {n : Node} (hproper : n.Proper false) (hreadable : n.readable = true)
    (hquery : ∀ s q, n = .atom s (.query q) → q.Spelled .names) : Whole n := by
  refine ⟨⟨⟨false, hproper⟩, quiet_words hproper hreadable⟩, ?_⟩
  cases n with
  | blank s => exact absurd (eq_nil_of_gap hproper.2) hproper.1
  | flags s fs => rfl
  | group opener kind branches => rfl
  | atom s a =>
    obtain ⟨c, more, rfl, -, -, -, hform⟩ := hproper
    rcases hform rfl hreadable with ⟨rfl, hset⟩ | ⟨rfl, d, rest, rfl, hrest⟩ | ⟨-, -, hbar, rfl⟩
    · -- a class is skipped as a whole, whatever bars it holds
      have hlength := (closes_of_bracketed hset).2
      simp [barless, words, unbarred, hlength, unbarred_length]
    · have htame := hrest .names fun q ha => hquery _ q (by rw [ha])
      exact unbarred_of_notMem (notMem_of_tame htame) 0
    · have hchar : '|' ∉ [c] := by simpa using Ne.symm hbar
      exact unbarred_of_notMem hchar 0
  | repeated n s q =>
    obtain ⟨-, blank, c, mark, rfl, hgap, -, htext⟩ := hproper
    rw [eq_nil_of_gap hgap]
    exact unbarred_of_notMem (notMem_of_quantifierText (htext rfl)) 0

theorem whole_of_plain {n : Node} (hproper : n.Proper false) (hplain : n.plain = true)
    (hquery : ∀ s q, n = .atom s (.query q) → q.Spelled .names) : Whole n :=
  whole_of_readable hproper (readable_of_plain hplain) hquery

theorem exists_group_of_reported {n : Node} (h : reported n = true) :
    ∃ opener kind inner s q, n = .repeated (.group opener kind inner) s q := by
  unfold reported at h
  split at h
  next n s q =>
    obtain ⟨-, hhazardous⟩ := Bool.and_eq_true_iff.mp h
    unfold hazardous at hhazardous
    split at hhazardous
    next opener kind inner => exact ⟨opener, kind, inner, s, q, rfl⟩
    next => cases hhazardous
  next => cases h

/-- A repeated group is reported for a repetition in it or for texts that begin alike. -/
theorem reported_iff {opener : List Char} {kind : GroupKind} {inner : Branches} {s : List Char}
    {q : Quantifier} (hproper : (Node.repeated (.group opener kind inner) s q).Proper false)
    (hgroup : (Node.group opener kind inner).Proper false)
    (hinner : ∀ m ∈ withinBranches inner, Whole m) :
    reported (.repeated (.group opener kind inner) s q) = true ↔
      Shows s q ∧ (seen (within (.group opener kind inner)) = true ∨
        SomeAlike (compared opener kind inner)) := by
  rw [reported, hazardous, Bool.and_eq_true, Bool.or_eq_true, repeatsAt_iff hproper,
    branchesOverlap_iff hgroup hinner]

theorem reported_group {opener : List Char} {kind : GroupKind} {inner : Branches} {s : List Char}
    {q : Quantifier} (hproper : (Node.repeated (.group opener kind inner) s q).Proper false)
    (hplain : (Node.repeated (.group opener kind inner) s q).plain = true)
    (hgroup : (Node.group opener kind inner).Proper false)
    (hinner : ∀ m ∈ withinBranches inner, Whole m) :
    reported (.repeated (.group opener kind inner) s q) = true ↔
      q.repeats = true ∧ (seen (within (.group opener kind inner)) = true ∨
        SomeAlike (compared opener kind inner)) := by
  rw [reported_iff hproper hgroup hinner, ← repeatsAt_iff hproper,
    repeatsAt_of_plain hproper hplain]

/-- A valid plain pattern is unsafe exactly if a group is repeated in which the check meets a
repetition, or, among what it compares in the group, two texts that begin alike. -/
theorem checkSafety_overlapping {pattern : String} {branches : Branches}
    (hlength : pattern.length ≤ maxLength) (hparse : parse pattern.toList = some branches)
    (hmeaning : (meaning branches).isSome = true)
    (hplain : (withinBranches branches).all Node.plain = true) :
    (∃ h, checkSafety pattern = .error (.unsafePattern pattern h)) ↔
      ∃ opener kind inner s q, .repeated (.group opener kind inner) s q ∈ withinBranches branches ∧
        q.repeats = true ∧ (seen (within (.group opener kind inner)) = true ∨
          SomeAlike (compared opener kind inner)) := by
  have hplain' := List.all_eq_true.mp hplain
  have hproper := proper_of_parse_plain hparse hplain'
  have hwhole : ∀ n ∈ withinBranches branches, Whole n := fun n hn =>
    whole_of_plain (hproper n hn) (hplain' n hn) fun s q he => spelled_of_meaning hmeaning (he ▸ hn)
  have hreported : ∀ {opener kind inner s q},
      .repeated (.group opener kind inner) s q ∈ withinBranches branches →
      (reported (.repeated (.group opener kind inner) s q) = true ↔ q.repeats = true ∧
        (seen (within (.group opener kind inner)) = true ∨
          SomeAlike (compared opener kind inner))) := by
    intro opener kind inner s q hmem
    have hgroup : .group opener kind inner ∈ withinBranches branches :=
      withinBranches_trans (List.mem_cons_of_mem _ (mem_within_self _)) branches hmem
    exact reported_group (hproper _ hmem) (hplain' _ hmem) (hproper _ hgroup) fun m hm =>
      hwhole m (withinBranches_trans (List.mem_cons_of_mem _ hm) branches hgroup)
  have hlength' : pattern.toList.length ≤ maxLength := by rwa [String.length_toList]
  rw [checkSafety_eq_error_iff, hazard?_isSome hlength' hparse (legible_of_plain hparse hplain),
    List.any_eq_true]
  constructor
  · rintro ⟨n, hn, hfound⟩
    obtain ⟨opener, kind, inner, s, q, rfl⟩ := exists_group_of_reported hfound
    exact ⟨opener, kind, inner, s, q, hn, (hreported hn).mp hfound⟩
  · rintro ⟨opener, kind, inner, s, q, hn, hfound⟩
    exact ⟨_, hn, (hreported hn).mpr hfound⟩

/-- A bar in a class and one behind a backslash, in branches of a group with flags. -/
theorem checkSafety_overlapping_bars :
    "(?s-m:[|]\\||[|]\\|x)+".length ≤ maxLength ∧ ∃ branches,
      parse "(?s-m:[|]\\||[|]\\|x)+".toList = some branches ∧ (meaning branches).isSome = true ∧
      (withinBranches branches).all Node.plain = true ∧
      ∃ opener kind inner s q, .repeated (.group opener kind inner) s q ∈ withinBranches branches ∧
        q.repeats = true ∧ (seen (within (.group opener kind inner)) = true ∨
          SomeAlike (compared opener kind inner)) := by
  have hlength : "(?s-m:[|]\\||[|]\\|x)+".length ≤ maxLength := by decide
  have hsome : (parse "(?s-m:[|]\\||[|]\\|x)+".toList).any (fun branches =>
      (meaning branches).isSome && (withinBranches branches).all Node.plain) = true := by
    decide +kernel
  obtain ⟨branches, hparse, hboth⟩ := (Option.any_eq_true _ _).mp hsome
  obtain ⟨hmeaning, hplain⟩ := Bool.and_eq_true_iff.mp hboth
  have hunsafe : checkSafety "(?s-m:[|]\\||[|]\\|x)+" =
      .error (.unsafePattern "(?s-m:[|]\\||[|]\\|x)+" .overlappingBranches) := by decide
  exact ⟨hlength, branches, hparse, hmeaning, hplain,
    (checkSafety_overlapping hlength hparse hmeaning hplain).mp ⟨_, hunsafe⟩⟩

def overlapping : Node → Bool
  | .repeated (.group _ _ inner) _ q => q.repeats && anyComparable (inner.map sourceAll)
  | _ => false

/-- In a named group without a colon nothing is compared. -/
theorem overlapping_branches_missed :
    ¬ ∀ (pattern : String) (branches : Branches), pattern.length ≤ maxLength →
      parse pattern.toList = some branches → (meaning branches).isSome = true →
      ∀ opener kind inner s q,
        .repeated (.group opener kind inner) s q ∈ withinBranches branches → q.repeats = true →
        SomeAlike (inner.map sourceAll) →
          ∃ h, checkSafety pattern = .error (.unsafePattern pattern h) := by
  intro hall
  have hsome : (parse "(?P<_>a|a)*".toList).any (fun branches =>
      (meaning branches).isSome && (withinBranches branches).any overlapping) = true := by
    decide +kernel
  obtain ⟨branches, hparse, hboth⟩ := (Option.any_eq_true _ _).mp hsome
  obtain ⟨hmeaning, hany⟩ := Bool.and_eq_true_iff.mp hboth
  obtain ⟨n, hn, hfound⟩ := List.any_eq_true.mp hany
  unfold overlapping at hfound
  split at hfound
  next opener kind inner s q =>
    obtain ⟨hq, halike⟩ := Bool.and_eq_true_iff.mp hfound
    obtain ⟨h, herror⟩ := hall _ branches (by decide) hparse hmeaning opener kind inner s q hn hq
      (anyComparable_iff.mp halike)
    have hok : checkSafety "(?P<_>a|a)*" = .ok () := by decide
    simp [hok] at herror
  next => cases hfound

end NamePattern
end PromptWeave
