import PromptWeave.Proofs.Regex.Reading

/-! Brackets that are read.
Where blanks count, brackets that hold no brackets are closed by the first closing bracket that is
neither behind a backslash nor in front of all else. -/
namespace PromptWeave
namespace Regex

inductive Open : List Char → Prop
  | nil : Open []
  | cons {c : Char} {cs : List Char} : c ≠ ']' → c ≠ '\\' → Open cs → Open (c :: cs)
  | escaped {c : Char} {cs : List Char} : Open cs → Open ('\\' :: c :: cs)

theorem Open.append {cs ds : List Char} (hcs : Open cs) (hds : Open ds) : Open (cs ++ ds) := by
  induction hcs with
  | nil => exact hds
  | cons hclose hback _ ih => exact Open.cons hclose hback ih
  | escaped _ ih => exact Open.escaped ih

theorem open_of_plainText {cs : List Char} (h : plainText cs = true) : Open cs := by
  induction cs with
  | nil => exact Open.nil
  | cons c cs ih =>
    obtain ⟨hc, hcs⟩ := Bool.and_eq_true_iff.mp h
    exact Open.cons (fun he => by simp [he, isPlain, marks] at hc)
      (fun he => by simp [he, isPlain, marks] at hc) (ih hcs)

theorem Tame.isOpen {cs : List Char} (h : Tame .plain cs) : Open cs := by
  rcases h with hplain | ⟨_, rfl, inner, rfl, hinner⟩
  · exact open_of_plainText hplain
  · have hbrace : Open ['\x7d'] := open_of_plainText (by decide)
    exact Open.cons (by decide) (by decide) ((open_of_plainText hinner).append hbrace)

theorem setAtom_leaves {verbose : Bool} {cs rest : List Char} {a : Atom}
    (h : setAtom verbose cs = some (a, rest)) (hhead : verbose = false → cs.head? ≠ some ']') :
    Leaves verbose (fun used => a.plain = true → Open used) cs rest := by
  unfold setAtom at h
  split at h
  next => simp at h
  next cs =>
    cases cs with
    | nil => simp [escape] at h
    | cons c cs =>
      have hrest : Leaves verbose (fun used => a.plain = true → Open ('\\' :: c :: used)) cs rest :=
        (escape_leaves h).mono fun used hused ha => Open.escaped (hused.tame ha).isOpen
      exact (hrest.cons fun used hused => hused).cons fun used hused => hused
  next c cs hback =>
    cases h
    exact ⟨[c], rfl, fun hv _ => Open.cons (by simpa using hhead hv) hback Open.nil⟩

theorem flat_partOfAtom {a : Atom} {s : CharSet} (h : partOfAtom a = some s) :
    s.flat = a.plain := by
  cases a <;> cases h <;> rfl

theorem plain_of_literalOfAtom {a : Atom} {l : Literal} (h : literalOfAtom a = some l) :
    a.plain = true := by
  cases a <;> cases h
  rfl

theorem setRange_leaves {verbose : Bool} {cs rest : List Char} {s : CharSet}
    (h : setRange verbose cs = some (s, rest)) (hhead : verbose = false → cs.head? ≠ some ']') :
    Leaves verbose (fun used => s.flat = true → Open used) cs rest := by
  obtain ⟨⟨first, r⟩, hfirst, h⟩ := Option.bind_eq_some_iff.mp h
  have hread := setAtom_leaves hfirst hhead
  dsimp only at h
  split at h
  next => simp at h
  next more hmore =>
    split_ifs at h with hend
    · obtain ⟨t, ht, h⟩ := Option.bind_eq_some_iff.mp h
      cases h
      rw [flat_partOfAtom ht]
      rw [← hmore]
      exact hread.to_skip
    · obtain ⟨⟨last, r'⟩, hlast, h⟩ := Option.bind_eq_some_iff.mp h
      obtain ⟨lo, hlo, h⟩ := Option.bind_eq_some_iff.mp h
      obtain ⟨hi, hhi, h⟩ := Option.bind_eq_some_iff.mp h
      split_ifs at h
      cases h
      have hlast' : Leaves verbose (fun used => last.plain = true → Open used)
          (skip verbose more) r' :=
        setAtom_leaves hlast fun hv => by
          subst hv
          exact (not_or.mp hend).1
      refine hread.trans (Q := fun used => last.plain = true → Open used) ?_ (Leaves.of_skip ?_)
      · intro used used' hused hused' _
        exact (hused (plain_of_literalOfAtom hlo)).append (hused' (plain_of_literalOfAtom hhi))
      · rw [hmore]
        refine hlast'.of_skip.cons fun used hused ha => ?_
        exact Open.cons (by decide) (by decide) (hused ha)
  next =>
    obtain ⟨t, ht, h⟩ := Option.bind_eq_some_iff.mp h
    cases h
    rw [flat_partOfAtom ht]
    exact hread.to_skip

/-! #### Named sets, and what stands first -/

theorem asciiSet?_append {cs rest : List Char} {s : CharSet} (h : asciiSet? cs = some (s, rest)) :
    s.flat = false ∧ ∃ used, cs = used ++ rest := by
  obtain ⟨ds, hcolon, h⟩ := Option.bind_eq_some_iff.mp h
  rw [← Text.append_of_after? hcolon]
  dsimp only at h
  split at h
  all_goals
    obtain ⟨⟨name, r⟩, hcut, h⟩ := Option.bind_eq_some_iff.mp h
    obtain ⟨r', hclose, h⟩ := Option.bind_eq_some_iff.mp h
    obtain ⟨kind, -, h⟩ := Option.bind_eq_some_iff.mp h
    dsimp only at hcut hclose
    rw [Text.eq_append_of_cutAt? hcut, ← Text.append_of_after? hclose]
    cases h
    refine ⟨rfl, ?_⟩
  · exact ⟨':' :: '^' :: (name ++ [':', ']']), by simp⟩
  · exact ⟨':' :: (name ++ [':', ']']), by simp⟩

theorem leadingMinus_leaves {verbose : Bool} {fuel : Nat} {parts start : List CharSet}
    {cs rest : List Char} (h : leadingMinus verbose fuel parts cs = some (start, rest)) :
    Leaves verbose Open cs rest := by
  induction fuel generalizing parts cs with
  | zero => simp [leadingMinus] at h
  | succ fuel ih =>
    cases cs with
    | nil => simp [leadingMinus] at h
    | cons c cs =>
      rw [leadingMinus] at h
      split_ifs at h with hc
      · exact (ih h).of_skip.cons fun used hused =>
          Open.cons (by simp [hc]) (by simp [hc]) hused
      · cases h
        exact Leaves.refl Open.nil

theorem eq_of_leadingMinus {verbose : Bool} {fuel : Nat} {parts : List CharSet} {cs rest : List Char}
    (h : leadingMinus verbose fuel parts cs = some ([], rest)) : parts = [] ∧ cs = rest := by
  induction fuel generalizing parts cs with
  | zero => simp [leadingMinus] at h
  | succ fuel ih =>
    cases cs with
    | nil => simp [leadingMinus] at h
    | cons c cs =>
      rw [leadingMinus] at h
      split_ifs at h with hc
      · exact absurd (ih h).1 (by simp)
      · cases h
        exact ⟨rfl, rfl⟩

/-- What stands in front of `rest` in a set, behind the caret if there is one: a bracket that closes
nothing, or else no bracket. -/
def Begun (rest cs : List Char) : Prop := cs = [']'] ∨ (Open cs ∧ (cs ++ rest).head? ≠ some ']')

def Opened (rest cs : List Char) : Prop :=
  (Begun rest cs ∧ (cs ++ rest).head? ≠ some '^') ∨ ∃ more, cs = '^' :: more ∧ Begun rest more

theorem begun_leaves {verbose : Bool} {parts : List CharSet} {cs ds rest : List Char}
    (hminus : leadingMinus verbose (cs.length + 1) [] cs = some (parts, ds))
    (hrest : (ds = rest ∧ ∀ more, parts = [] → ds ≠ ']' :: more) ∨
      parts = [] ∧ ∃ more, ds = ']' :: more ∧ skip verbose more = rest) :
    Leaves verbose (Begun rest) cs rest := by
  rcases hrest with ⟨rfl, hclose⟩ | ⟨rfl, more, rfl, rfl⟩
  · obtain ⟨used, he, hused⟩ := leadingMinus_leaves hminus
    refine ⟨used, he, fun hv => Or.inr ⟨hused hv, fun hhead => ?_⟩⟩
    obtain ⟨more, hmore⟩ := List.head?_eq_some_iff.mp hhead
    rw [← he] at hmore
    rw [hmore, leadingMinus, if_neg (by decide)] at hminus
    cases hminus
    exact hclose more rfl rfl
  · rw [(eq_of_leadingMinus hminus).2]
    exact (leaves_skip verbose more).cons fun used hnil => Or.inl (by rw [hnil])

theorem setStart_leaves {verbose negated : Bool} {cs rest : List Char} {start : List CharSet}
    (h : setStart verbose cs = some (negated, start, rest)) :
    Leaves verbose (Opened rest) cs rest := by
  refine Leaves.of_skip ?_
  unfold setStart at h
  dsimp only at h
  split at h
  all_goals
    obtain ⟨⟨parts, ds⟩, hminus, h⟩ := Option.bind_eq_some_iff.mp h
    have hrest : (ds = rest ∧ ∀ more, parts = [] → ds ≠ ']' :: more) ∨
        parts = [] ∧ ∃ more, ds = ']' :: more ∧ skip verbose more = rest := by
      split at h
      next he =>
        cases he
        split at h
        next => simp at h
        next =>
          cases h
          exact Or.inr ⟨rfl, _, rfl, rfl⟩
      next hclose he =>
        cases he
        cases h
        exact Or.inl ⟨rfl, hclose⟩
    have hbegun := begun_leaves hminus hrest
  case h_1 hcaret _ =>
    rw [hcaret]
    exact (Leaves.of_skip hbegun).cons fun used hused => Or.inr ⟨used, rfl, hused⟩
  case h_2 hcaret _ =>
    obtain ⟨used, he, hused⟩ := hbegun
    refine ⟨used, he, fun hv => Or.inl ⟨hused hv, fun hhead => ?_⟩⟩
    obtain ⟨more, hmore⟩ := List.head?_eq_some_iff.mp hhead
    exact hcaret more (he.trans hmore)

/-! #### The rest of a set -/

@[simp] theorem flat_unionOf (parts : List CharSet) :
    (unionOf parts).flat = CharSet.flatAll parts := by
  unfold unionOf
  split
  next s => simp [CharSet.flatAll]
  next => simp [CharSet.flat, CharSet.flatAll_eq_all]

def flatWaiting (waiting : Option (SetOp × CharSet)) : Bool := waiting.all fun (_, lhs) => lhs.flat

@[simp] theorem flat_applyOp (waiting : Option (SetOp × CharSet)) (parts : List CharSet) :
    (applyOp waiting parts).flat = (flatWaiting waiting && CharSet.flatAll parts) := by
  cases waiting <;> simp [applyOp, flatWaiting, CharSet.flat]

def Closing (cs : List Char) : Prop := ∃ inner, cs = inner ++ [']'] ∧ Open inner

theorem setOp?_append {cs rest : List Char} {o : SetOp} (h : setOp? cs = some (o, rest)) :
    ∃ c, c ≠ ']' ∧ c ≠ '\\' ∧ cs = c :: c :: rest := by
  unfold setOp? at h
  split at h
  all_goals cases h
  · exact ⟨'&', by decide, by decide, rfl⟩
  · exact ⟨'-', by decide, by decide, rfl⟩
  · exact ⟨'~', by decide, by decide, rfl⟩

theorem Closing.of_open {cs ds : List Char} (hds : Closing ds) (hcs : Open cs) :
    Closing (cs ++ ds) := by
  obtain ⟨inner, rfl, hinner⟩ := hds
  exact ⟨cs ++ inner, by simp, hcs.append hinner⟩

theorem setBody_leaves {verbose : Bool} {fuel : Nat} {waiting : Option (SetOp × CharSet)}
    {parts : List CharSet} {cs rest : List Char} {s : CharSet}
    (h : setBody verbose fuel waiting parts cs = some (s, rest)) :
    Leaves verbose (fun used => s.flat = true → Closing used) cs rest ∧
      (s.flat = true → flatWaiting waiting = true ∧ CharSet.flatAll parts = true) := by
  induction fuel generalizing waiting parts cs s rest with
  | zero => simp [setBody] at h
  | succ fuel ih =>
    suffices hskip : Leaves verbose (fun used => s.flat = true → Closing used) (skip verbose cs) rest ∧
        (s.flat = true → flatWaiting waiting = true ∧ CharSet.flatAll parts = true) from
      ⟨hskip.1.of_skip, hskip.2⟩
    rw [setBody] at h
    split at h
    next => simp at h
    next ds hds =>
      cases h
      rw [hds]
      exact ⟨⟨[']'], rfl, fun _ _ => ⟨[], rfl, Open.nil⟩⟩, by simp⟩
    -- brackets inside brackets: the set that is read is not flat, so nothing is said of its text
    next ds hds =>
      rw [hds]
      cases hascii : asciiSet? ds with
      | some read =>
        obtain ⟨t, r⟩ := read
        simp only [hascii] at h
        obtain ⟨hnot, used, rfl⟩ := asciiSet?_append hascii
        obtain ⟨⟨used', rfl, -⟩, hparts⟩ := ih h
        have hflat : s.flat ≠ true := fun hs => by
          simpa [CharSet.flatAll, hnot] using (hparts hs).2
        exact ⟨⟨'[' :: (used ++ used'), by simp, fun _ hs => absurd hs hflat⟩,
          fun hs => absurd hs hflat⟩
      | none =>
        simp only [hascii] at h
        obtain ⟨⟨negated, start, r⟩, hstart, h⟩ := Option.bind_eq_some_iff.mp h
        obtain ⟨⟨inner, r'⟩, hinner, h⟩ := Option.bind_eq_some_iff.mp h
        obtain ⟨used, he, -⟩ := setStart_leaves hstart
        obtain ⟨⟨used', he', -⟩, -⟩ := ih hinner
        obtain ⟨⟨used'', he'', -⟩, hparts⟩ := ih h
        dsimp only at he' he''
        have hflat : s.flat ≠ true := fun hs => by
          simpa [CharSet.flatAll, CharSet.flat] using (hparts hs).2
        exact ⟨⟨'[' :: (used ++ used' ++ used''), by simp [he, he', he''],
          fun _ hs => absurd hs hflat⟩, fun hs => absurd hs hflat⟩
    next hclose _ =>
      split at h
      next o r hop =>
        obtain ⟨c, hc, hc', he⟩ := setOp?_append hop
        obtain ⟨hleaves, hparts⟩ := ih h
        have hcons : ∀ used, (s.flat = true → Closing used) → s.flat = true → Closing (c :: used) :=
          fun used hused hs => (hused hs).of_open (Open.cons hc hc' Open.nil)
        rw [he]
        refine ⟨(hleaves.cons hcons).cons hcons, fun hs => ?_⟩
        simpa [flatWaiting, CharSet.flatAll] using (hparts hs).1
      next =>
        obtain ⟨⟨t, r⟩, hrange, h⟩ := Option.bind_eq_some_iff.mp h
        obtain ⟨hleaves, hparts⟩ := ih h
        have hall : s.flat = true → flatWaiting waiting = true ∧ t.flat = true ∧
            CharSet.flatAll parts = true := fun hs => by
          simpa [CharSet.flatAll] using hparts hs
        have hhead : (skip verbose cs).head? ≠ some ']' := fun he => by
          obtain ⟨more, hmore⟩ := List.head?_eq_some_iff.mp he
          exact hclose more hmore
        have hread := setRange_leaves hrange fun _ => hhead
        refine ⟨hread.trans (fun used used' hused hused' hs => ?_) hleaves, fun hs => ?_⟩
        · exact (hused' hs).of_open (hused (hall hs).2.1)
        · exact ⟨(hall hs).1, (hall hs).2.2⟩

/-- A text up to the bracket that closes a set, behind the caret if there is one. A bracket in front
of all else closes nothing. -/
def SetText (cs : List Char) : Prop :=
  ∃ inner, Open inner ∧ (cs = ']' :: (inner ++ [']']) ∨ cs = inner ++ [']'] ∧ inner ≠ [])

def Bracketed (cs : List Char) : Prop :=
  (SetText cs ∧ cs.head? ≠ some '^') ∨ ∃ more, cs = '^' :: more ∧ SetText more

theorem setText_append {rest cs ds : List Char} (hcs : Begun (ds ++ rest) cs) (hds : Closing ds) :
    SetText (cs ++ ds) := by
  obtain ⟨inner, rfl, hinner⟩ := hds
  rcases hcs with rfl | ⟨hopen, hhead⟩
  · exact ⟨inner, hinner, Or.inl (by simp)⟩
  · refine ⟨cs ++ inner, hopen.append hinner, Or.inr ⟨by simp, fun hnil => ?_⟩⟩
    obtain ⟨rfl, rfl⟩ := List.append_eq_nil_iff.mp hnil
    exact hhead (by simp)

theorem bracketed_leaves {verbose : Bool} {cs rest : List Char} {a : Atom}
    (h : bracketed verbose cs = some (a, rest)) :
    Leaves verbose (fun used => a.plain = true → Bracketed used) cs rest := by
  obtain ⟨⟨negated, start, r⟩, hstart, h⟩ := Option.bind_eq_some_iff.mp h
  obtain ⟨⟨inner, r'⟩, hbody, h⟩ := Option.bind_eq_some_iff.mp h
  cases h
  obtain ⟨used, he, hopened⟩ := setStart_leaves hstart
  obtain ⟨used', he', hclosing⟩ := (setBody_leaves hbody).1
  refine ⟨used ++ used', by rw [he, he', List.append_assoc], fun hv hflat => ?_⟩
  have hclosing' := hclosing hv hflat
  rw [he'] at hopened
  rcases hopened hv with ⟨hbegun, hhead⟩ | ⟨more, rfl, hbegun⟩
  · refine Or.inl ⟨setText_append hbegun hclosing', fun hcaret => hhead ?_⟩
    obtain ⟨more, hmore⟩ := List.head?_eq_some_iff.mp hcaret
    rw [← List.append_assoc, hmore]
    rfl
  · exact Or.inr ⟨more ++ used', rfl, setText_append hbegun hclosing'⟩

end Regex
end PromptWeave
