import PromptWeave.Proofs.Regex.Reading

/-! Quantifiers and openers that are read. -/
namespace PromptWeave
namespace Regex

/-! ### Counts -/

def isCountText (c : Char) : Bool := c.isDigit || c == ',' || Text.isBlank c

/-- Numbers, a comma and blanks, with one digit at least. -/
def CountText (cs : List Char) : Prop :=
  cs.all isCountText = true ∧ cs.any Char.isDigit = true

theorem trimStart_append (cs : List Char) :
    ∃ blanks, cs = blanks ++ Text.trimStart cs ∧ blanks.all isCountText = true := by
  refine ⟨cs.takeWhile Text.isBlank, List.takeWhile_append_dropWhile.symm, ?_⟩
  rw [List.all_eq_true]
  intro c hc
  simp [isCountText, List.mem_takeWhile_imp hc]

theorem countDigits_leaves (verbose : Bool) (fuel : Nat) (cs : List Char) :
    Leaves verbose (· = (countDigits verbose fuel cs).1) cs (countDigits verbose fuel cs).2 ∧
      ∀ c ∈ (countDigits verbose fuel cs).1, c.isDigit = true := by
  induction fuel generalizing cs with
  | zero => exact ⟨Leaves.refl rfl, by simp [countDigits]⟩
  | succ fuel ih =>
    cases cs with
    | nil => exact ⟨Leaves.refl rfl, by simp [countDigits]⟩
    | cons c cs =>
      rw [countDigits]
      split_ifs with hc
      · obtain ⟨hleaves, hdigits⟩ := ih (skip verbose cs)
        exact ⟨hleaves.of_skip.cons (by simp), List.forall_mem_cons.mpr ⟨hc, hdigits⟩⟩
      · exact ⟨Leaves.refl rfl, by simp⟩

theorem count_leaves {verbose : Bool} {n : Nat} {cs rest : List Char}
    (h : count verbose cs = some (n, rest)) : Leaves verbose CountText cs rest := by
  obtain ⟨blanks, hcs, hblanks⟩ := trimStart_append cs
  have hread := countDigits_leaves verbose ((Text.trimStart cs).length + 1) (Text.trimStart cs)
  simp only [count] at h
  split at h
  next => simp at h
  next ds r hne hdigits =>
    split_ifs at h
    cases h
    obtain ⟨⟨used, hused, hds⟩, hall⟩ := hread
    obtain ⟨blanks', hr, hblanks'⟩ := trimStart_append r
    simp only [hdigits] at hused hds hall
    refine ⟨blanks ++ used ++ blanks', ?_, fun hv => ?_⟩
    · rw [List.append_assoc, List.append_assoc, ← hr, ← hused]
      exact hcs
    · have he : used = ds := hds hv
      obtain ⟨d, hd⟩ := List.exists_mem_of_ne_nil ds hne
      have hdigit : used.any Char.isDigit = true := by
        rw [he]
        exact List.any_eq_true.mpr ⟨d, hd, hall d hd⟩
      have hcount : used.all isCountText = true := by
        rw [he, List.all_eq_true]
        intro c hc
        simp [isCountText, hall c hc]
      simp [CountText, hblanks, hblanks', hcount, hdigit]

theorem countBounds_leaves {verbose : Bool} {min : Nat} {cs rest : List Char} {q : Quantifier}
    (h : countBounds verbose min cs = some (q, rest)) :
    Leaves verbose (·.all isCountText = true) cs rest ∧ q ≠ .optional := by
  unfold countBounds at h
  split at h
  next ds =>
    split at h
    next more hmore =>
      cases h
      refine ⟨?_, by simp⟩
      rw [← hmore]
      exact (leaves_skip verbose ds).cons fun used hnil => by rw [hnil]; decide
    next =>
      obtain ⟨⟨max, r⟩, hread, h⟩ := Option.bind_eq_some_iff.mp h
      dsimp only at h
      split_ifs at h
      cases h
      refine ⟨?_, by simp⟩
      exact (count_leaves hread).of_skip.cons fun used hused => by
        simpa [isCountText] using hused.1
  next =>
    cases h
    exact ⟨Leaves.refl rfl, by simp⟩

/-- What stands behind the first character of a quantifier: a lazy mark, and in braces a count
before it. -/
def QuantifierText (q : Quantifier) (c : Char) (cs : List Char) : Prop :=
  ∃ lazy, (lazy = [] ∨ lazy = ['?']) ∧
    (cs = lazy ∧ (c = '?' ∧ q = .optional ∨ c = '*' ∧ q = .star ∨ c = '+' ∧ q = .plus) ∨
      ∃ inner, cs = inner ++ '\x7d' :: lazy ∧ c = '\x7b' ∧ q ≠ .optional ∧ CountText inner)

theorem dropLazy_append (cs : List Char) :
    ∃ lazy, cs = lazy ++ dropLazy cs ∧ (lazy = [] ∨ lazy = ['?']) := by
  unfold dropLazy
  split
  · exact ⟨['?'], rfl, Or.inr rfl⟩
  · exact ⟨[], rfl, Or.inl rfl⟩

theorem counted_leaves {verbose : Bool} {cs rest : List Char} {q : Quantifier}
    (h : counted verbose cs = some (q, rest)) :
    Leaves verbose (QuantifierText q '\x7b') cs rest := by
  obtain ⟨⟨min, ds⟩, hmin, h⟩ := Option.bind_eq_some_iff.mp h
  obtain ⟨bounds, hbounds, h⟩ := Option.bind_eq_some_iff.mp h
  split at h
  next q' r =>
    cases h
    obtain ⟨hleaves, hq⟩ := countBounds_leaves hbounds
    obtain ⟨lazy, hlazy, hmark⟩ := dropLazy_append (skip verbose r)
    have hmin' : Leaves verbose CountText cs ds := (count_leaves hmin).of_skip
    have hinner : Leaves verbose CountText cs ('\x7d' :: r) :=
      hmin'.trans (fun used used' hused hused' => by
        simp [CountText, hused.1, hused.2, hused']) hleaves
    have hlazy' : Leaves verbose (· = lazy) r (dropLazy (skip verbose r)) :=
      Leaves.of_skip ⟨lazy, hlazy, fun _ => rfl⟩
    have hclose : Leaves verbose (· = '\x7d' :: lazy) ('\x7d' :: r) (dropLazy (skip verbose r)) :=
      hlazy'.cons fun used he => by rw [he]
    refine hinner.trans (fun used used' hused he => ?_) hclose
    exact ⟨lazy, hmark, Or.inr ⟨used, by rw [he], rfl, hq, hused⟩⟩
  next => simp at h

theorem quantifier_leaves {verbose : Bool} {c : Char} {cs rest : List Char} {q : Quantifier}
    (hc : c = '?' ∨ c = '*' ∨ c = '+' ∨ c = '\x7b')
    (h : quantifier verbose c cs = some (q, rest)) :
    Leaves verbose (QuantifierText q c) cs rest := by
  have hlazy : ∀ {q}, (c = '?' ∧ q = .optional ∨ c = '*' ∧ q = .star ∨ c = '+' ∧ q = .plus) →
      Leaves verbose (QuantifierText q c) cs (dropLazy cs) := fun hq => by
    obtain ⟨lazy, he, hmark⟩ := dropLazy_append cs
    exact ⟨lazy, he, fun _ => ⟨lazy, hmark, Or.inl ⟨rfl, hq⟩⟩⟩
  rw [quantifier] at h
  split_ifs at h with hopt hstar hplus
  · cases h
    exact hlazy (Or.inl ⟨hopt, rfl⟩)
  · cases h
    exact hlazy (Or.inr (Or.inl ⟨hstar, rfl⟩))
  · cases h
    exact hlazy (Or.inr (Or.inr ⟨hplus, rfl⟩))
  · obtain rfl : c = '\x7b' := by simpa [hopt, hstar, hplus] using hc
    exact counted_leaves h

/-! ### Openers -/

def isFlagText (c : Char) : Bool := c == '-' || (flagOf? c).isSome

theorem plainText_of_flagText {cs : List Char} (h : cs.all isFlagText = true) :
    plainText cs = true :=
  List.all_eq_true.mpr fun c hc => isPlain_of (by decide) (List.all_eq_true.mp h c hc)

theorem flagList_append {negated dangling : Bool} {seen fs : Flags} {d : Char} {cs rest : List Char}
    (h : flagList negated dangling seen cs = some (fs, d, rest)) :
    (d = ':' ∨ d = ')') ∧ ∃ used, cs = used ++ d :: rest ∧ used.all isFlagText = true := by
  induction cs generalizing negated dangling seen with
  | nil => simp [flagList] at h
  | cons c cs ih =>
    rw [flagList] at h
    split_ifs at h with hend _ hminus
    · cases h
      exact ⟨hend, [], rfl, rfl⟩
    · obtain ⟨hd, used, rfl, hused⟩ := ih h
      exact ⟨hd, c :: used, rfl, by rw [List.all_cons, hused, hminus]; rfl⟩
    · split at h
      next => simp at h
      next f hf =>
        split_ifs at h
        obtain ⟨hd, used, rfl, hused⟩ := ih h
        exact ⟨hd, c :: used, rfl, by simp only [List.all_cons, hused, isFlagText, hf]; simp⟩

theorem groupName_append {cs name rest : List Char} (h : groupName cs = some (name, rest)) :
    cs = name ++ '>' :: rest ∧ name.all isNameRest = true := by
  obtain ⟨cut, hcut, h⟩ := Option.bind_eq_some_iff.mp h
  split at h
  next =>
    split_ifs at h with hname
    cases h
    obtain ⟨hstart, hrest⟩ := Bool.and_eq_true_iff.mp hname
    refine ⟨Text.eq_append_of_cutAt? hcut, ?_⟩
    rw [List.all_cons, hrest, isNameRest, hstart]
    rfl
  next => simp at h

def GroupKind.plainName : GroupKind → Bool
  | .named name => plainText name
  | .capture | .plain _ => true

/-- What stands behind the opening parenthesis of a group and belongs to it. -/
def GroupKind.Opens : GroupKind → List Char → Prop
  | .capture, opener => opener = []
  | .plain _, opener => ∃ flags, opener = '?' :: (flags ++ [':']) ∧ flags.all isFlagText = true
  | .named name, opener => name.all isNameRest = true ∧
      (opener = '?' :: 'P' :: '<' :: (name ++ ['>']) ∨ opener = '?' :: '<' :: (name ++ ['>']))

theorem GroupKind.Opens.plainText {kind : GroupKind} {opener : List Char} (h : kind.Opens opener)
    (hkind : kind.plainName = true) : Regex.plainText opener = true := by
  have hmark : isPlain '?' = true ∧ isPlain ':' = true ∧ isPlain 'P' = true ∧ isPlain '<' = true ∧
      isPlain '>' = true := by decide
  cases kind with
  | capture => rw [show opener = [] from h, plainText_nil]
  | plain fs =>
    obtain ⟨flags, rfl, hflags⟩ := h
    simp [hmark, plainText_of_flagText hflags]
  | named name =>
    have hname : Regex.plainText name = true := hkind
    rcases h.2 with rfl | rfl <;> simp [hmark, hname]

theorem namedOpening_leaves (verbose : Bool) {cs rest : List Char} {o : Opening}
    (h : namedOpening cs = some (o, rest)) : ∃ name, o = .group (.named name) ∧
      name.all isNameRest = true ∧ Leaves verbose (· = name ++ ['>']) cs rest := by
  obtain ⟨⟨name, r⟩, hname, h⟩ := Option.bind_eq_some_iff.mp h
  cases h
  obtain ⟨he, hall⟩ := groupName_append hname
  exact ⟨name, rfl, hall, name ++ ['>'], by simp [he], fun _ => rfl⟩

/-- What stands between the parentheses of flags that are set for what follows. -/
def FlagsText (cs : List Char) : Prop := ∃ flags, cs = '?' :: flags ∧ flags.all isFlagText = true

theorem plainText_of_flagsText {cs : List Char} (h : FlagsText cs) : plainText cs = true := by
  obtain ⟨flags, rfl, hflags⟩ := h
  rw [plainText_cons, plainText_of_flagText hflags]
  rfl

/-- What stands behind an opening parenthesis: the rest of an opener, or flags up to the closing
parenthesis. -/
theorem opening_leaves {verbose : Bool} {cs rest : List Char} {o : Opening}
    (h : opening verbose cs = some (o, rest)) :
    (∃ kind, o = .group kind ∧ Leaves verbose kind.Opens cs rest) ∨
    ∃ fs, o = .flags fs ∧ Leaves verbose FlagsText cs (')' :: rest) := by
  unfold opening at h
  split at h
  case h_5 ds hds =>
    obtain ⟨name, rfl, hall, used, rfl, hused⟩ := namedOpening_leaves verbose h
    refine Or.inl ⟨.named name, rfl, Leaves.of_skip ?_⟩
    rw [hds]
    exact ⟨'?' :: 'P' :: '<' :: used, rfl, fun hv => ⟨hall, Or.inl (by rw [hused hv])⟩⟩
  case h_6 ds _ _ hds =>
    obtain ⟨name, rfl, hall, used, rfl, hused⟩ := namedOpening_leaves verbose h
    refine Or.inl ⟨.named name, rfl, Leaves.of_skip ?_⟩
    rw [hds]
    exact ⟨'?' :: '<' :: used, rfl, fun hv => ⟨hall, Or.inr (by rw [hused hv])⟩⟩
  case h_7 ds _ _ _ _ _ _ hds =>
    obtain ⟨⟨fs, d, r⟩, hread, h⟩ := Option.bind_eq_some_iff.mp h
    obtain ⟨hd, used, he, hused⟩ := flagList_append hread
    split at h
    next => simp at h
    next hread =>
      cases hread
      cases h
      refine Or.inr ⟨fs, rfl, Leaves.of_skip ?_⟩
      exact ⟨'?' :: used, by simp [hds, he], fun _ => ⟨used, rfl, hused⟩⟩
    next hclose hread =>
      cases hread
      cases h
      obtain rfl : d = ':' := hd.resolve_right hclose
      refine Or.inl ⟨.plain fs, rfl, Leaves.of_skip ?_⟩
      exact ⟨'?' :: (used ++ [':']), by simp [hds, he], fun _ => ⟨used, rfl, hused⟩⟩
  case h_8 =>
    cases h
    exact Or.inl ⟨.capture, rfl, Leaves.of_skip (Leaves.refl rfl)⟩
  all_goals simp at h

end Regex
end PromptWeave
