import Mathlib.Data.List.TakeWhile
import Mathlib.Tactic.SplitIfs
import PromptWeave.Text.Blank

/-! Texts in pieces and in lines.
Cutting a text where it was joined gives the pieces back. A line holds no newline, and what is left
of a text when blanks or final characters are dropped stands in it. -/
namespace PromptWeave
namespace Text

/-! ### Pieces -/

theorem splitAt_ne_nil (c : Char) (cs : List Char) : splitAt c cs ≠ [] := by
  cases cs with
  | nil => simp [splitAt]
  | cons d ds =>
    simp only [splitAt]
    split
    · simp
    · split <;> simp

theorem splitAt_of_notMem {c : Char} {cs : List Char} (h : c ∉ cs) : splitAt c cs = [cs] := by
  induction cs with
  | nil => rfl
  | cons d ds ih =>
    simp only [List.mem_cons, not_or] at h
    simp [splitAt, Ne.symm h.1, ih h.2]

theorem splitAt_append (c : Char) (xs ys : List Char) :
    splitAt c (xs ++ c :: ys) = splitAt c xs ++ splitAt c ys := by
  induction xs with
  | nil => simp [splitAt]
  | cons d ds ih =>
    simp only [List.cons_append, splitAt, ih]
    split_ifs with hd
    · rfl
    · cases hs : splitAt c ds with
      | nil => exact absurd hs (splitAt_ne_nil c ds)
      | cons piece more => rfl

@[simp] theorem unlines_singleton (l : List Char) : unlines [l] = l := by
  simp [unlines, List.intercalate]

theorem unlines_cons (l : List Char) {ls : List (List Char)} (h : ls ≠ []) :
    unlines (l :: ls) = l ++ '\n' :: unlines ls := by
  obtain ⟨m, ms, rfl⟩ := List.exists_cons_of_ne_nil h
  simp [unlines, List.intercalate]

theorem unlines_append {ls ms : List (List Char)} (hls : ls ≠ []) (hms : ms ≠ []) :
    unlines (ls ++ ms) = unlines ls ++ '\n' :: unlines ms := by
  induction ls with
  | nil => exact absurd rfl hls
  | cons l ls ih =>
    by_cases hnil : ls = []
    · rw [hnil, List.singleton_append, unlines_cons l hms, unlines_singleton]
    · rw [List.cons_append, unlines_cons l (by simp [hnil]), ih hnil, unlines_cons l hnil,
        List.append_assoc, List.cons_append]

theorem unlines_concat {ls : List (List Char)} (h : ls ≠ []) (l : List Char) :
    unlines (ls ++ [l]) = unlines ls ++ '\n' :: l := by
  rw [unlines_append h (List.cons_ne_nil l []), unlines_singleton]

theorem mem_unlines {ls : List (List Char)} {c : Char} (h : c ∈ unlines ls) :
    c = '\n' ∨ ∃ l ∈ ls, c ∈ l := by
  induction ls with
  | nil => cases h
  | cons l ls ih =>
    by_cases hnil : ls = []
    · exact Or.inr ⟨l, List.mem_cons_self, by simpa [hnil] using h⟩
    · rw [unlines_cons l hnil, List.mem_append, List.mem_cons] at h
      rcases h with hl | rfl | hls
      · exact Or.inr ⟨l, List.mem_cons_self, hl⟩
      · exact Or.inl rfl
      · rcases ih hls with hc | ⟨m, hm, hc⟩
        · exact Or.inl hc
        · exact Or.inr ⟨m, List.mem_cons_of_mem l hm, hc⟩

theorem unlines_splitAt (cs : List Char) : unlines (splitAt '\n' cs) = cs := by
  induction cs with
  | nil => rfl
  | cons c cs ih =>
    have hne := splitAt_ne_nil '\n' cs
    rw [splitAt]
    split_ifs with hc
    · rw [unlines_cons _ hne, ih, hc, List.nil_append]
    · cases hs : splitAt '\n' cs with
      | nil => exact absurd hs hne
      | cons piece more =>
        rw [hs] at ih
        rw [← ih]
        cases more with
        | nil => rw [unlines_singleton, unlines_singleton]
        | cons m ms =>
          have hm : m :: ms ≠ [] := List.cons_ne_nil m ms
          rw [unlines_cons (c :: piece) hm, unlines_cons piece hm, List.cons_append]

theorem notMem_splitAt {c : Char} {cs piece : List Char} (h : piece ∈ splitAt c cs) :
    c ∉ piece := by
  induction cs generalizing piece with
  | nil => simp_all [splitAt]
  | cons d ds ih =>
    rw [splitAt] at h
    split_ifs at h with hd
    · rcases List.mem_cons.mp h with rfl | h
      · simp
      · exact ih h
    · cases hs : splitAt c ds with
      | nil => exact absurd hs (splitAt_ne_nil c ds)
      | cons first more =>
        rw [hs] at h ih
        rcases List.mem_cons.mp h with rfl | h
        · simp [Ne.symm hd, ih List.mem_cons_self]
        · exact ih (List.mem_cons_of_mem first h)

theorem sublist_of_mem_splitAt {c : Char} {cs piece : List Char} (h : piece ∈ splitAt c cs) :
    piece.Sublist cs := by
  induction cs generalizing piece with
  | nil => simp_all [splitAt]
  | cons d ds ih =>
    rw [splitAt] at h
    split_ifs at h with hd
    · rcases List.mem_cons.mp h with rfl | h
      · exact List.nil_sublist _
      · exact (ih h).cons d
    · cases hs : splitAt c ds with
      | nil => exact absurd hs (splitAt_ne_nil c ds)
      | cons first more =>
        rw [hs] at h ih
        rcases List.mem_cons.mp h with rfl | h
        · exact (ih List.mem_cons_self).cons_cons d
        · exact (ih (List.mem_cons_of_mem first h)).cons d

/-! ### Lines -/

/-- A line ends where its newline stands, a carriage return in front of that apart. -/
theorem lines_append {l : List Char} (rest : List Char) (hline : '\n' ∉ l)
    (hreturn : l.getLast? ≠ some '\r') : lines (l ++ '\n' :: rest) = l :: lines rest := by
  induction l with
  | nil => rfl
  | cons c l ih =>
    simp only [List.mem_cons, not_or] at hline
    have hrest : lines (l ++ '\n' :: rest) = l :: lines rest := by
      cases l with
      | nil => rfl
      | cons d l => exact ih hline.2 (by simpa using hreturn)
    have hpair : ∀ tail, c = '\r' → l ++ '\n' :: rest ≠ '\n' :: tail := by
      rintro tail rfl he
      cases l with
      | nil => exact hreturn rfl
      | cons d l =>
        cases he
        exact hline.2 List.mem_cons_self
    rw [List.cons_append, lines, hrest]
    · exact Ne.symm hline.1
    · exact hpair

theorem lines_of_notMem {l : List Char} (hline : '\n' ∉ l) (hne : l ≠ []) : lines l = [l] := by
  induction l with
  | nil => exact absurd rfl hne
  | cons c l ih =>
    simp only [List.mem_cons, not_or] at hline
    have hrest : lines l = if l = [] then [] else [l] := by
      by_cases hl : l = []
      · simp [hl]
      · simp [hl, ih hline.2 hl]
    rw [lines, hrest]
    · by_cases hl : l = [] <;> simp [hl]
    · exact Ne.symm hline.1
    · rintro tail - rfl
      exact hline.2 List.mem_cons_self

theorem notMem_lines {cs l : List Char} (h : l ∈ lines cs) : '\n' ∉ l := by
  fun_induction lines cs generalizing l with
  | case1 => simp at h
  | case2 rest ih =>
    rcases List.mem_cons.mp h with rfl | h
    · simp
    · exact ih h
  | case3 rest ih =>
    rcases List.mem_cons.mp h with rfl | h
    · simp
    · exact ih h
  | case4 c rest hc _ hrest ih =>
    cases List.mem_singleton.mp h
    simpa using Ne.symm hc
  | case5 c rest hc _ line more hrest ih =>
    rcases List.mem_cons.mp h with rfl | h
    · have hline : '\n' ∉ line := ih (hrest ▸ List.mem_cons_self)
      simpa [hline] using Ne.symm hc
    · exact ih (hrest ▸ List.mem_cons_of_mem line h)

/-! ### Beginnings -/

theorem after?_append (mark cs : List Char) : after? mark (mark ++ cs) = some cs := by
  simp [after?]

theorem append_of_after? {mark cs rest : List Char} (h : after? mark cs = some rest) :
    mark ++ rest = cs := by
  rw [after?] at h
  split_ifs at h with hmark
  cases h
  exact List.prefix_iff_eq_append.mp (List.isPrefixOf_iff_prefix.mp hmark)

theorem cutAt?_append {c : Char} {a : List Char} (h : c ∉ a) (b : List Char) :
    cutAt? c (a ++ c :: b) = some (a, b) := by
  induction a with
  | nil => simp [cutAt?]
  | cons d a ih =>
    obtain ⟨hd, ha⟩ := not_or.mp (List.mem_cons.not.mp h)
    rw [List.cons_append, cutAt?, if_neg (Ne.symm hd), ih ha]
    rfl

theorem eq_append_of_cutAt? {c : Char} {cs a b : List Char} (h : cutAt? c cs = some (a, b)) :
    cs = a ++ c :: b := by
  induction cs generalizing a with
  | nil => simp [cutAt?] at h
  | cons d ds ih =>
    rw [cutAt?] at h
    split_ifs at h with hd
    · cases h
      rw [hd]
      rfl
    · obtain ⟨⟨a', b'⟩, hcut, he⟩ := Option.map_eq_some_iff.mp h
      cases he
      rw [ih hcut]
      rfl

/-! ### Less of a text -/

theorem dropLastWhile_append_of_all {p : Char → Bool} (xs : List Char) {ys : List Char}
    (hys : ∀ y ∈ ys, p y = true) : dropLastWhile p (xs ++ ys) = dropLastWhile p xs := by
  induction xs with
  | nil =>
    induction ys with
    | nil => rfl
    | cons y ys ih =>
      have hrest : dropLastWhile p ys = [] := ih fun z hz => hys z (List.mem_cons_of_mem y hz)
      simp [dropLastWhile, hrest, hys y List.mem_cons_self]
  | cons x xs ih => rw [List.cons_append, dropLastWhile, dropLastWhile, ih]

theorem dropLastWhile_concat {p : Char → Bool} (xs : List Char) {c : Char} (hc : p c = false) :
    dropLastWhile p (xs ++ [c]) = xs ++ [c] := by
  induction xs with
  | nil => simp [dropLastWhile, hc]
  | cons x xs ih =>
    rw [List.cons_append, dropLastWhile, ih]
    cases hx : xs ++ [c] with
    | nil => simp at hx
    | cons y ys => rfl

theorem dropLastWhile_cons_of_neg {p : Char → Bool} {c : Char} (cs : List Char)
    (hc : p c = false) : dropLastWhile p (c :: cs) = c :: dropLastWhile p cs := by
  rw [dropLastWhile, hc]
  cases dropLastWhile p cs <;> rfl

theorem dropLastWhile_isPrefix (p : Char → Bool) (cs : List Char) : dropLastWhile p cs <+: cs := by
  induction cs with
  | nil => exact List.prefix_rfl
  | cons c cs ih =>
    rw [dropLastWhile]
    cases h : dropLastWhile p cs with
    | nil => cases p c <;> simp
    | cons d ds =>
      rw [h] at ih
      simpa using ih

theorem dropLastWhile_sublist (p : Char → Bool) (cs : List Char) :
    (dropLastWhile p cs).Sublist cs :=
  (dropLastWhile_isPrefix p cs).sublist

theorem dropLastWhile_cases (p : Char → Bool) (cs : List Char) : dropLastWhile p cs = [] ∨
    ∃ front c, dropLastWhile p cs = front ++ [c] ∧ p c = false := by
  induction cs with
  | nil => exact Or.inl rfl
  | cons c cs ih =>
    rw [dropLastWhile]
    rcases ih with h | ⟨front, d, h, hd⟩
    · rw [h]
      by_cases hc : p c = true
      · simp [hc]
      · exact Or.inr ⟨[], c, by simp [hc], by simpa using hc⟩
    · refine Or.inr ⟨c :: front, d, ?_, hd⟩
      rw [h]
      cases front <;> rfl

theorem trim_sublist (cs : List Char) : (trim cs).Sublist cs :=
  (dropLastWhile_sublist isBlank _).trans (List.dropWhile_sublist isBlank)

theorem of_dropLastWhile_eq_nil {p : Char → Bool} {cs : List Char} (h : dropLastWhile p cs = []) :
    ∀ c ∈ cs, p c = true := by
  induction cs with
  | nil => simp
  | cons c cs ih =>
    rw [dropLastWhile] at h
    cases hrest : dropLastWhile p cs with
    | nil =>
      rw [hrest] at h
      have hc : p c = true := by
        by_contra hc
        simp [hc] at h
      intro d hd
      rcases List.mem_cons.mp hd with rfl | hd
      · exact hc
      · exact ih hrest d hd
    | cons d ds =>
      rw [hrest] at h
      cases h

theorem allBlank_of_trim_eq_nil {cs : List Char} (h : trim cs = []) : allBlank cs = true := by
  refine List.all_eq_true.mpr fun c hc => ?_
  rw [← List.takeWhile_append_dropWhile (p := isBlank) (l := cs), List.mem_append] at hc
  rcases hc with hc | hc
  · exact List.mem_takeWhile_imp hc
  · exact of_dropLastWhile_eq_nil h c hc

theorem allBlank_of_mem {cs : List Char} {c : Char} (hc : c ∈ cs) (h : isBlank c = false) :
    allBlank cs = false :=
  List.all_eq_false.mpr ⟨c, hc, by simp [h]⟩

theorem allBlank_append (cs ds : List Char) : allBlank (cs ++ ds) = (allBlank cs && allBlank ds) :=
  List.all_append

theorem allBlank_of_sublist {cs ds : List Char} (h : ds.Sublist cs) (hcs : allBlank cs = true) :
    allBlank ds = true :=
  List.all_eq_true.mpr fun c hc => List.all_eq_true.mp hcs c (h.mem hc)

/-! ### Texts without blanks at their ends -/

/-- A text that begins and ends with a character to show. -/
structure Firm (cs : List Char) : Prop where
  first : ∃ c rest, cs = c :: rest ∧ isBlank c = false
  last : ∃ front c, cs = front ++ [c] ∧ isBlank c = false

theorem Firm.ne_nil {cs : List Char} (h : Firm cs) : cs ≠ [] := by
  obtain ⟨c, rest, rfl, -⟩ := h.first
  simp

theorem Firm.trimStart {cs : List Char} (h : Firm cs) : trimStart cs = cs := by
  obtain ⟨c, rest, rfl, hc⟩ := h.first
  simp [Text.trimStart, hc]

theorem Firm.trimEnd {cs : List Char} (h : Firm cs) : trimEnd cs = cs := by
  obtain ⟨front, c, rfl, hc⟩ := h.last
  exact dropLastWhile_concat front hc

theorem Firm.trim {cs : List Char} (h : Firm cs) : trim cs = cs := by
  rw [Text.trim, h.trimStart, h.trimEnd]

theorem Firm.append {cs ds : List Char} (hcs : Firm cs) (hds : Firm ds) (between : List Char) :
    Firm (cs ++ between ++ ds) where
  first := by
    obtain ⟨c, rest, rfl, hc⟩ := hcs.first
    exact ⟨c, rest ++ between ++ ds, by simp, hc⟩
  last := by
    obtain ⟨front, c, rfl, hc⟩ := hds.last
    exact ⟨cs ++ between ++ front, c, by simp, hc⟩

theorem not_firm_cons {c : Char} (hc : isBlank c = true) (cs : List Char) : ¬ Firm (c :: cs) := by
  intro h
  obtain ⟨d, rest, he, hd⟩ := h.first
  cases he
  simp [hc] at hd

theorem Firm.not_allBlank {cs : List Char} (h : Firm cs) : allBlank cs = false := by
  obtain ⟨c, rest, rfl, hc⟩ := h.first
  exact allBlank_of_mem List.mem_cons_self hc

theorem firm_trimEnd {c : Char} (cs : List Char) (hc : isBlank c = false) :
    Firm (Text.trimEnd (c :: cs)) where
  first := ⟨c, Text.trimEnd cs, dropLastWhile_cons_of_neg cs hc, hc⟩
  last := by
    refine (dropLastWhile_cases isBlank (c :: cs)).resolve_left ?_
    simp [dropLastWhile_cons_of_neg cs hc]

theorem firm_trim {cs : List Char} (h : Text.trim cs ≠ []) : Firm (Text.trim cs) := by
  rw [Text.trim, Text.trimStart] at h ⊢
  cases hcs : cs.dropWhile isBlank with
  | nil => simp [hcs] at h
  | cons c rest =>
    have hc := List.head?_dropWhile_not isBlank cs
    rw [hcs] at hc
    exact firm_trimEnd rest (by simpa using hc)

theorem allBlank_trim (cs : List Char) : allBlank (Text.trim cs) = (Text.trim cs).isEmpty := by
  by_cases h : Text.trim cs = []
  · rw [h]
    rfl
  · rw [(firm_trim h).not_allBlank, List.isEmpty_eq_false_iff.mpr h]

theorem allBlank_eq_isEmpty_trim (cs : List Char) : allBlank cs = (Text.trim cs).isEmpty := by
  by_cases h : allBlank cs = true
  · rw [← allBlank_trim, allBlank_of_sublist (trim_sublist cs) h, h]
  · have hne : Text.trim cs ≠ [] := fun he => h (allBlank_of_trim_eq_nil he)
    simp [h, hne]

theorem firm_of_trim {cs : List Char} (hne : cs ≠ []) (h : Text.trim cs = cs) : Firm cs := by
  have hfirm : Firm (Text.trim cs) := firm_trim (h.symm ▸ hne)
  rwa [h] at hfirm

theorem Firm.getLast?_ne {cs : List Char} (h : Firm cs) {c : Char} (hc : isBlank c = true) :
    cs.getLast? ≠ some c := by
  obtain ⟨front, d, rfl, hd⟩ := h.last
  rw [List.getLast?_concat]
  rintro ⟨⟩
  simp [hc] at hd

theorem lines_unlines_append {ls : List (List Char)} (h : ∀ l ∈ ls, Firm l ∧ '\n' ∉ l)
    (hne : ls ≠ []) (rest : List Char) : lines (unlines ls ++ '\n' :: rest) = ls ++ lines rest := by
  induction ls with
  | nil => exact absurd rfl hne
  | cons l ls ih =>
    obtain ⟨⟨hfirm, hline⟩, hls⟩ := List.forall_mem_cons.mp h
    have hreturn : l.getLast? ≠ some '\r' := hfirm.getLast?_ne (by decide)
    by_cases hnil : ls = []
    · subst hnil
      rw [unlines_singleton, lines_append rest hline hreturn, List.singleton_append]
    · rw [unlines_cons l hnil, List.append_assoc, List.cons_append, lines_append _ hline hreturn,
        ih hls hnil, List.cons_append]

theorem lines_unlines {ls : List (List Char)} (h : ∀ l ∈ ls, Firm l ∧ '\n' ∉ l) :
    lines (unlines ls) = ls := by
  induction ls with
  | nil => rfl
  | cons l ls ih =>
    obtain ⟨⟨hfirm, hline⟩, hls⟩ := List.forall_mem_cons.mp h
    by_cases hnil : ls = []
    · subst hnil
      rw [unlines_singleton, lines_of_notMem hline hfirm.ne_nil]
    · rw [unlines_cons l hnil, lines_append _ hline (hfirm.getLast?_ne (by decide)), ih hls]

theorem firm_unlines {ls : List (List Char)} (hne : ls ≠ []) (h : ∀ l ∈ ls, Firm l) :
    Firm (unlines ls) := by
  induction ls with
  | nil => exact absurd rfl hne
  | cons l ls ih =>
    obtain ⟨hl, hls⟩ := List.forall_mem_cons.mp h
    by_cases hnil : ls = []
    · subst hnil
      rwa [unlines_singleton]
    · have happend := hl.append (ih hnil hls) ['\n']
      rwa [List.append_assoc, List.singleton_append, ← unlines_cons l hnil] at happend

/-! ### Lines that end in a carriage return -/

/-- A line without the carriage return at its end. -/
def dropReturn (l : List Char) : List Char := if l.getLast? = some '\r' then l.dropLast else l

theorem lines_return {l : List Char} (rest : List Char) (h : '\n' ∉ l) :
    lines (l ++ '\r' :: '\n' :: rest) = l :: lines rest := by
  induction l with
  | nil => rfl
  | cons c l ih =>
    simp only [List.mem_cons, not_or] at h
    have hpair : ∀ tail, c = '\r' → l ++ '\r' :: '\n' :: rest ≠ '\n' :: tail := by
      rintro tail - he
      cases l with
      | nil => cases he
      | cons d l =>
        cases he
        exact h.2 List.mem_cons_self
    rw [List.cons_append, lines, ih h.2]
    · exact Ne.symm h.1
    · exact hpair

theorem lines_line {l : List Char} (rest : List Char) (h : '\n' ∉ l) :
    lines (l ++ '\n' :: rest) = dropReturn l :: lines rest := by
  rw [dropReturn]
  split
  next hreturn =>
    obtain ⟨front, rfl⟩ := List.getLast?_eq_some_iff.mp hreturn
    have hfront : '\n' ∉ front := fun hmem => h (List.mem_append_left _ hmem)
    rw [List.dropLast_concat, List.append_assoc, List.singleton_append, lines_return rest hfront]
  next hreturn => exact lines_append rest h hreturn

/-- Lines that are written under one another are read again, but for carriage returns at their
ends. -/
theorem lines_unlines_concat {ls : List (List Char)} (h : ∀ l ∈ ls, '\n' ∉ l) (rest : List Char) :
    lines (unlines (ls ++ [rest])) = ls.map dropReturn ++ lines rest := by
  induction ls with
  | nil => rw [List.nil_append, unlines_singleton]; rfl
  | cons l ls ih =>
    obtain ⟨hl, hls⟩ := List.forall_mem_cons.mp h
    rw [List.cons_append, unlines_cons l (by simp), lines_line _ hl, ih hls]
    rfl

theorem splitAt_unlines {ls : List (List Char)} (hne : ls ≠ []) (h : ∀ l ∈ ls, '\n' ∉ l) :
    splitAt '\n' (unlines ls) = ls := by
  induction ls with
  | nil => exact absurd rfl hne
  | cons l ls ih =>
    obtain ⟨hl, hls⟩ := List.forall_mem_cons.mp h
    by_cases hnil : ls = []
    · rw [hnil, unlines_singleton, splitAt_of_notMem hl]
    · rw [unlines_cons l hnil, splitAt_append, splitAt_of_notMem hl, ih hnil hls]
      rfl

theorem dropReturn_eq_self_iff {l : List Char} : dropReturn l = l ↔ l.getLast? ≠ some '\r' := by
  rw [dropReturn]
  split
  next hreturn =>
    obtain ⟨front, rfl⟩ := List.getLast?_eq_some_iff.mp hreturn
    simp
  next hreturn => simp [hreturn]

theorem lines_unlines_of_last {ls : List (List Char)}
    (h : ∀ l ∈ ls, '\n' ∉ l ∧ l.getLast? ≠ some '\r') (hlast : ls.getLast? ≠ some []) :
    lines (unlines ls) = ls := by
  rcases List.eq_nil_or_concat ls with rfl | ⟨front, last, rfl⟩
  · rfl
  · rw [List.concat_eq_append] at h hlast ⊢
    obtain ⟨hfront, hends⟩ := List.forall_mem_append.mp h
    have hne : last ≠ [] := fun he => hlast (by simp [he])
    have hkept : front.map dropReturn = front.map id :=
      List.map_inj_left.mpr fun l hl => dropReturn_eq_self_iff.mpr (hfront l hl).2
    rw [lines_unlines_concat fun l hl => (hfront l hl).1, hkept, List.map_id,
      lines_of_notMem (hends last (by simp)).1 hne]

/-- Where no carriage return stands and no newline ends the text, lines are what is between
newlines. -/
theorem lines_eq_splitAt {cs : List Char} (hne : cs ≠ []) (hreturn : '\r' ∉ cs)
    (hlast : cs.getLast? ≠ some '\n') : lines cs = splitAt '\n' cs := by
  have hpieces : ∀ l ∈ splitAt '\n' cs, '\n' ∉ l ∧ l.getLast? ≠ some '\r' := fun l hl =>
    ⟨notMem_splitAt hl, fun he =>
      hreturn ((sublist_of_mem_splitAt hl).mem (List.mem_of_getLast? he))⟩
  have hends : (splitAt '\n' cs).getLast? ≠ some [] := by
    intro he
    obtain ⟨front, hfront⟩ := List.getLast?_eq_some_iff.mp he
    have hcs := unlines_splitAt cs
    rw [hfront] at hcs
    by_cases hnil : front = []
    · rw [hnil, List.nil_append, unlines_singleton] at hcs
      exact hne hcs.symm
    · rw [unlines_concat hnil] at hcs
      exact hlast (by rw [← hcs, List.getLast?_concat])
  have hread := lines_unlines_of_last hpieces hends
  rwa [unlines_splitAt] at hread

theorem dropReturn_sublist (l : List Char) : (dropReturn l).Sublist l := by
  rw [dropReturn]
  split
  · exact List.dropLast_sublist l
  · exact .refl l

theorem dropReturn_cons {c : Char} (l : List Char) (hc : c ≠ '\r') :
    dropReturn (c :: l) = c :: dropReturn l := by
  cases l with
  | nil => simp [dropReturn, hc]
  | cons d l =>
    rw [dropReturn, dropReturn, List.getLast?_cons_cons]
    split <;> rfl

/-- Lines under one another are the same text with and without carriage returns at their ends only if
there are none. -/
theorem unlines_dropReturn_iff {ls : List (List Char)} {last : List Char}
    (h : ∀ l ∈ ls, '\n' ∉ l) (hlast : '\n' ∉ last) :
    unlines (ls.map dropReturn ++ [last]) = unlines (ls ++ [last]) ↔
      ∀ l ∈ ls, l.getLast? ≠ some '\r' := by
  have hread : ∀ {ms : List (List Char)}, (∀ m ∈ ms, '\n' ∉ m) →
      splitAt '\n' (unlines (ms ++ [last])) = ms ++ [last] := by
    intro ms hms
    refine splitAt_unlines (by simp) (List.forall_mem_append.mpr ⟨hms, ?_⟩)
    simpa using hlast
  have hdropped : ∀ m ∈ ls.map dropReturn, '\n' ∉ m := by
    refine List.forall_mem_map.mpr fun l hl hmem => h l hl ?_
    exact (dropReturn_sublist l).mem hmem
  have hself : ls.map dropReturn = ls ↔ ∀ l ∈ ls, l.getLast? ≠ some '\r' := by
    have hid : ls.map dropReturn = ls.map id ↔ _ := List.map_inj_left
    rw [List.map_id] at hid
    simpa [dropReturn_eq_self_iff] using hid
  rw [← hself]
  constructor
  · intro he
    have hsplit := congrArg (splitAt '\n') he
    rw [hread hdropped, hread h] at hsplit
    exact List.append_cancel_right hsplit
  · intro he
    rw [he]

end Text
end PromptWeave
