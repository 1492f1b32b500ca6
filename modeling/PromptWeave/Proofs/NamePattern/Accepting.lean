import PromptWeave.Proofs.NamePattern.Overlapping
import PromptWeave.Proofs.Unicode.Tables

/-! Patterns that the check accepts.
In an ordinary pattern with a meaning the check meets the quantifiers that repeat, and it takes the
braces of an escape around a decimal number for one. Nothing else in an escape or a class counts. -/
namespace PromptWeave
namespace NamePattern

open Regex Regex.Node

/-! ### Texts in which no repetition is met -/

/-- The characters that begin a repetition or make the check pass over others. -/
def stops : List Char := ['*', '+', '\x7b', '\\', '[']

theorem sees_cons_of_notMem {c : Char} (hc : c ∉ stops) (cs : List Char) :
    sees 0 (c :: cs) = sees 0 cs := by
  simp only [stops, List.mem_cons, List.not_mem_nil, or_false, not_or] at hc
  obtain ⟨hstar, hplus, hbrace, hback, hclass⟩ := hc
  simp [sees, repeatsAt, hstar, hplus, hbrace, hback, hclass]

theorem sees_of_notMem {cs : List Char} (h : ∀ c ∈ cs, c ∉ stops) : sees 0 cs = false := by
  induction cs with
  | nil => rfl
  | cons c cs ih =>
    obtain ⟨hc, hcs⟩ := List.forall_mem_cons.mp h
    rw [sees_cons_of_notMem hc, ih hcs]

theorem sees_length (cs : List Char) : sees cs.length cs = false := by
  induction cs with
  | nil => rfl
  | cons c cs ih => exact ih

theorem notMem_stops_of_names {cs : List Char} (h : Alphabet.names.Words cs) :
    ∀ c ∈ cs, c ∉ stops :=
  notMem_of_all (by decide) h

theorem notMem_stops_of_flagText {cs : List Char} (h : cs.all isFlagText = true) :
    ∀ c ∈ cs, c ∉ stops :=
  notMem_of_all (by decide) h

/-! ### What counts in a node -/

/-- What the check takes for a repetition: a quantifier that repeats and holds no blanks, and an
escape with nothing but decimal digits in its braces. -/
inductive Counts : Node → Prop
  | quantifier {n : Node} {s : List Char} {q : Quantifier} (h : Shows s q) :
      Counts (.repeated n s q)
  | escape {c : Char} {digits : List Char} {a : Atom} (hne : digits ≠ [])
      (hdigits : ∀ d ∈ digits, d.isDigit = true) :
      Counts (.atom ('\\' :: c :: '\x7b' :: (digits ++ ['\x7d'])) a)

/-- In braces around a name or a number a repetition is met if that is a decimal number. -/
theorem sees_braces {inner : List Char} (h : Alphabet.names.Words inner) :
    sees 0 ('\x7b' :: (inner ++ ['\x7d'])) = true ↔
      inner ≠ [] ∧ ∀ d ∈ inner, d.isDigit = true := by
  have hbrace : '\x7d' ∉ inner := notMem_of_words h (by decide)
  have hcomma : ',' ∉ inner := notMem_of_words h (by decide)
  have hrest : sees 0 (inner ++ ['\x7d']) = false :=
    sees_of_notMem (List.forall_mem_append.mpr ⟨notMem_stops_of_names h, by simp [stops]⟩)
  have hcount : (∀ d ∈ inner, isCountChar d = true) ↔ ∀ d ∈ inner, d.isDigit = true := by
    refine forall₂_congr fun d hd => ?_
    have hd : d ≠ ',' := fun he => hcomma (he ▸ hd)
    simp [isCountChar, hd]
  rw [sees, if_neg (by decide), if_neg (by decide), hrest, Bool.or_false, repeatsAt_braces hbrace,
    hcount, List.any_eq_true]
  constructor
  · rintro ⟨hdigits, d, hd, -⟩
    exact ⟨List.ne_nil_of_mem hd, hdigits⟩
  · rintro ⟨hne, hdigits⟩
    obtain ⟨d, hd⟩ := List.exists_mem_of_ne_nil inner hne
    exact ⟨hdigits, d, hd, hdigits d hd⟩

theorem sees_escape {d : Char} {rest : List Char} {a : Atom} (h : Tame .names rest) :
    sees 0 ('\\' :: d :: rest) = true ↔ Counts (.atom ('\\' :: d :: rest) a) := by
  have hstep : sees 0 ('\\' :: d :: rest) = sees 0 rest := rfl
  rw [hstep]
  rcases h with hwords | ⟨_, rfl, inner, rfl, hinner⟩
  · have hbrace : '\x7b' ∉ rest := notMem_of_words hwords (by decide)
    rw [sees_of_notMem (notMem_stops_of_names hwords)]
    constructor
    · intro h
      cases h
    · rintro (_ | _)
      exact absurd List.mem_cons_self hbrace
  · rw [sees_braces hinner]
    constructor
    · rintro ⟨hne, hdigits⟩
      exact .escape hne hdigits
    · intro hcounts
      generalize htext : '\\' :: d :: '\x7b' :: (inner ++ ['\x7d']) = text at hcounts
      cases hcounts with
      | escape hne hdigits =>
        simp only [List.cons.injEq, List.append_cancel_right_eq, true_and] at htext
        obtain ⟨-, rfl⟩ := htext
        exact ⟨hne, hdigits⟩

theorem sees_quantifierText {q : Quantifier} {c : Char} {cs : List Char}
    (h : QuantifierText q c cs) (hc : c ∈ quantifierMarks) :
    sees 0 (c :: cs) = repeatsAt (c :: cs) := by
  have hmark : c ≠ '\\' ∧ c ≠ '[' := by
    constructor
    · rintro rfl
      exact absurd hc (by decide)
    · rintro rfl
      exact absurd hc (by decide)
  have hrest : ∀ d ∈ cs, d ∉ stops := by
    obtain ⟨lazy, hlazy, ⟨rfl, -⟩ | ⟨inner, rfl, -, -, hcount, -⟩⟩ := h
    · rcases hlazy with rfl | rfl <;> simp [stops]
    · have hinner : ∀ d ∈ inner, d ∉ stops := notMem_of_all (by decide) hcount
      refine List.forall_mem_append.mpr ⟨hinner, ?_⟩
      rcases hlazy with rfl | rfl <;> simp [stops]
  rw [sees, if_neg hmark.1, if_neg hmark.2, sees_of_notMem hrest, Bool.or_false]

/-! ### Names of groups -/

theorem fromZero_of_isNumeric {c : Char} (h : isNumeric c = true) : 47 < c.toNat := by
  obtain ⟨name, hname, hcontains⟩ := List.any_eq_true.mp h
  obtain ⟨r, hzero, hlow, -⟩ :=
    Unicode.contains_of_all hcontains (List.all_eq_true.mp Unicode.fromZero_numeric name hname)
  exact (Nat.blt_eq.mp hzero).trans_le hlow

theorem fromZero_of_isNameStart {c : Char} (h : isNameStart c = true) : 47 < c.toNat := by
  rcases Bool.or_eq_true_iff.mp h with h | h
  · rw [beq_iff_eq.mp h]
    decide
  · obtain ⟨r, hzero, hlow, -⟩ := Unicode.contains_of_all h Unicode.fromZero_alphabetic
    exact (Nat.blt_eq.mp hzero).trans_le hlow

theorem notMem_stops_of_isNameRest {c : Char} (h : isNameRest c = true)
    (hplain : isPlain c = true) : c ∉ stops := by
  intro hstop
  have hmark : c = '*' ∨ c = '+' := by
    simp only [stops, List.mem_cons, List.not_mem_nil, or_false] at hstop
    rcases hstop with rfl | rfl | rfl | rfl | rfl
    · exact Or.inl rfl
    · exact Or.inr rfl
    all_goals exact absurd hplain (by decide)
  have hsmall : c.toNat ≤ 47 ∧ c ≠ '.' ∧ c ≠ '[' ∧ c ≠ ']' := by
    rcases hmark with rfl | rfl <;> decide
  obtain ⟨hle, hpoint, hopen, hclose⟩ := hsmall
  simp only [isNameRest, Bool.or_eq_true, beq_iff_eq, hpoint, hopen, hclose, or_false] at h
  rcases h with h | h
  · exact absurd (fromZero_of_isNameStart h) (by omega)
  · exact absurd (fromZero_of_isNumeric h) (by omega)

theorem sees_opener {kind : GroupKind} {more : List Char} (h : kind.Opens more)
    (hkind : kind.plainName = true) : sees 0 more = false := by
  apply sees_of_notMem
  cases kind with
  | capture =>
    rw [show more = [] from h]
    simp
  | plain fs =>
    obtain ⟨flags, rfl, hflags⟩ := h
    exact List.forall_mem_cons.mpr ⟨by decide,
      List.forall_mem_append.mpr ⟨notMem_stops_of_flagText hflags, by simp [stops]⟩⟩
  | named name =>
    obtain ⟨hname, hmore⟩ := h
    have hname' : ∀ c ∈ name ++ ['>'], c ∉ stops := by
      refine List.forall_mem_append.mpr ⟨fun c hc => ?_, by simp [stops]⟩
      exact notMem_stops_of_isNameRest (List.all_eq_true.mp hname c hc)
        (List.all_eq_true.mp hkind c hc)
    rcases hmore with rfl | rfl
    · simp only [List.forall_mem_cons]
      exact ⟨by decide, by decide, by decide, hname'⟩
    · simp only [List.forall_mem_cons]
      exact ⟨by decide, by decide, hname'⟩

/-! ### Nodes -/

/-- In a node that is read as it is meant the check meets a repetition where one counts. -/
theorem sees_words_iff {n : Node} (hproper : n.Proper false) (hreadable : n.readable = true)
    (hquery : ∀ s q, n = .atom s (.query q) → q.Spelled .names) :
    sees 0 (words n) = true ↔ Counts n := by
  cases n with
  | blank s => exact absurd (eq_nil_of_gap hproper.2) hproper.1
  | atom s a =>
    obtain ⟨c, more, rfl, -, -, hmarks, hform⟩ := hproper
    rcases hform rfl hreadable with ⟨rfl, hset⟩ | ⟨rfl, d, rest, rfl, hrest⟩ | ⟨hset, hback, -, rfl⟩
    · -- a class is passed over as a whole
      have hnot : sees 0 ('[' :: more) = false := by
        rw [sees, if_neg (by decide), if_pos rfl, (closes_of_bracketed hset).2, sees_length]
      exact iff_of_false (by simp [words, hnot]) (by rintro ⟨⟩)
    · exact sees_escape (hrest .names fun q ha => hquery _ q (by rw [ha]))
    · have hnot : sees 0 [c] = false := by
        rw [sees, if_neg hback, if_neg hset, repeatsAt_of_notMem hmarks]
        rfl
      have hescape : ¬ Counts (.atom [c] a) := by rintro ⟨⟩
      exact iff_of_false (by simp [words, hnot]) hescape
  | flags s fs =>
    obtain ⟨inner, rfl, hinner⟩ := hproper
    obtain ⟨flags, rfl, hflags⟩ := hinner rfl
    have hnot : sees 0 ('?' :: flags) = false :=
      sees_of_notMem (List.forall_mem_cons.mpr ⟨by decide, notMem_stops_of_flagText hflags⟩)
    have hwords : words (.flags ('(' :: ('?' :: flags ++ [')'])) fs) = '?' :: flags := by
      rw [words, List.tail_cons, List.dropLast_concat]
    rw [hwords, hnot]
    exact iff_of_false Bool.false_ne_true (by rintro ⟨⟩)
  | repeated n s q =>
    have hshows : Counts (.repeated n s q) ↔ Shows s q :=
      ⟨fun h => by cases h with | quantifier h => exact h, .quantifier⟩
    rw [hshows, ← repeatsAt_iff hproper]
    obtain ⟨-, blank, c, mark, rfl, hgap, hc, htext⟩ := hproper
    rw [eq_nil_of_gap hgap, List.nil_append, words, sees_quantifierText (htext rfl) hc]
  | group opener kind inner =>
    obtain ⟨more, rfl, hmore⟩ := hproper
    have hnot : sees 0 more = false :=
      sees_opener (hmore rfl) (Bool.and_eq_true_iff.mp hreadable).1
    exact iff_of_false (by simp [words, hnot]) (by rintro ⟨⟩)

/-! ### What the check accepts -/

theorem checkSafety_eq_ok_iff {pattern : String} :
    checkSafety pattern = .ok () ↔ (hazard? pattern.toList).isSome = false := by
  unfold checkSafety
  cases hazard? pattern.toList <;> simp

theorem seen_group_iff {opener : List Char} {kind : GroupKind} {inner : Branches}
    (h : ∀ m ∈ within (.group opener kind inner), (sees 0 (words m) = true ↔ Counts m)) :
    seen (within (.group opener kind inner)) = true ↔ ∃ m ∈ withinBranches inner, Counts m := by
  have hself : ¬ Counts (.group opener kind inner) := by rintro ⟨⟩
  rw [seen, List.any_eq_true, exists_congr fun m => and_congr_right fun hm => h m hm]
  simp [within, hself]

/-- A valid ordinary pattern is accepted exactly if each group that is repeated holds nothing that
counts for a repetition, and among what is compared in it no two texts begin alike. -/
theorem checkSafety_accepts_iff {pattern : String} {branches : Branches}
    (hlength : pattern.length ≤ maxLength) (hparse : parse pattern.toList = some branches)
    (hmeaning : (meaning branches).isSome = true)
    (hordinary : (withinBranches branches).all Node.ordinary = true) :
    checkSafety pattern = .ok () ↔
      ∀ opener kind inner s q, .repeated (.group opener kind inner) s q ∈ withinBranches branches →
        Shows s q → (∀ m ∈ withinBranches inner, ¬ Counts m) ∧
          ¬ SomeAlike (compared opener kind inner) := by
  have hreadable := readable_of_ordinary hmeaning hordinary
  have hproper := proper_of_parse_readable hparse hreadable
  have hquery : ∀ n ∈ withinBranches branches, ∀ s q, n = .atom s (.query q) → q.Spelled .names :=
    fun n hn s q he => spelled_of_meaning hmeaning (he ▸ hn)
  have hwhole : ∀ n ∈ withinBranches branches, Whole n := fun n hn =>
    whole_of_readable (hproper n hn) (hreadable n hn) (hquery n hn)
  have hlegible : legible branches = true := List.all_eq_true.mpr fun n hn => (hwhole n hn).1.2
  have hsees : ∀ n ∈ withinBranches branches, (sees 0 (words n) = true ↔ Counts n) := fun n hn =>
    sees_words_iff (hproper n hn) (hreadable n hn) (hquery n hn)
  have hreported : ∀ opener kind inner s q,
      .repeated (.group opener kind inner) s q ∈ withinBranches branches →
      (¬ reported (.repeated (.group opener kind inner) s q) = true ↔ (Shows s q →
        (∀ m ∈ withinBranches inner, ¬ Counts m) ∧ ¬ SomeAlike (compared opener kind inner))) := by
    intro opener kind inner s q hmem
    have hgroup : .group opener kind inner ∈ withinBranches branches :=
      withinBranches_trans (List.mem_cons_of_mem _ (mem_within_self _)) branches hmem
    have hwithin : ∀ m ∈ within (.group opener kind inner), m ∈ withinBranches branches :=
      fun m hm => withinBranches_trans hm branches hgroup
    have hinner : ∀ m ∈ withinBranches inner, Whole m := fun m hm =>
      hwhole m (hwithin m (List.mem_cons_of_mem _ hm))
    rw [reported_iff (hproper _ hmem) (hproper _ hgroup) hinner,
      seen_group_iff fun m hm => hsees m (hwithin m hm)]
    simp only [not_and, not_or, not_exists]
  have hlength' : pattern.toList.length ≤ maxLength := by rwa [String.length_toList]
  rw [checkSafety_eq_ok_iff, hazard?_isSome hlength' hparse hlegible, List.any_eq_false]
  constructor
  · intro hnone opener kind inner s q hmem
    exact (hreported opener kind inner s q hmem).mp (hnone _ hmem)
  · intro hall n hn hfound
    obtain ⟨opener, kind, inner, s, q, rfl⟩ := exists_group_of_reported hfound
    exact (hreported opener kind inner s q hn).mpr (hall opener kind inner s q hn) hfound

/-- Marks in a class, an escaped parenthesis and an escape with a letter in its braces. -/
theorem checkSafety_accepts_iff_escapes :
    "(?s:[*+]\\(|\\x{F2}x?)+".length ≤ maxLength ∧ ∃ branches,
      parse "(?s:[*+]\\(|\\x{F2}x?)+".toList = some branches ∧ (meaning branches).isSome = true ∧
      (withinBranches branches).all Node.ordinary = true ∧
      ∀ opener kind inner s q, .repeated (.group opener kind inner) s q ∈ withinBranches branches →
        Shows s q → (∀ m ∈ withinBranches inner, ¬ Counts m) ∧
          ¬ SomeAlike (compared opener kind inner) := by
  have hlength : "(?s:[*+]\\(|\\x{F2}x?)+".length ≤ maxLength := by decide
  have hsome : (parse "(?s:[*+]\\(|\\x{F2}x?)+".toList).any (fun branches =>
      (meaning branches).isSome && (withinBranches branches).all Node.ordinary) = true := by
    decide +kernel
  obtain ⟨branches, hparse, hboth⟩ := (Option.any_eq_true _ _).mp hsome
  obtain ⟨hmeaning, hordinary⟩ := Bool.and_eq_true_iff.mp hboth
  have hok : checkSafety "(?s:[*+]\\(|\\x{F2}x?)+" = .ok () := by decide
  exact ⟨hlength, branches, hparse, hmeaning, hordinary,
    (checkSafety_accepts_iff hlength hparse hmeaning hordinary).mp hok⟩

def ambiguous (n : Node) : Bool :=
  n.repeats && match n.core with
    | .group _ _ inner => anyComparable (inner.map sourceAll)
    | _ => false

/-- An escape with a decimal number in its braces is taken for a repetition. -/
theorem escaped_character_rejected :
    ¬ ∀ (pattern : String) (branches : Branches), pattern.length ≤ maxLength →
      parse pattern.toList = some branches → (meaning branches).isSome = true →
      (∀ n ∈ withinBranches branches, n.nested = false) →
      (∀ n ∈ withinBranches branches, ∀ opener kind inner, n.repeats = true →
        n.core = .group opener kind inner → ¬ SomeAlike (inner.map sourceAll)) →
        checkSafety pattern = .ok () := by
  intro hall
  have hsome : (parse "(\\x{20})+".toList).any (fun branches => (meaning branches).isSome &&
      (withinBranches branches).all fun n => !n.nested && !ambiguous n) = true := by decide +kernel
  obtain ⟨branches, hparse, hboth⟩ := (Option.any_eq_true _ _).mp hsome
  simp only [Bool.and_eq_true, List.all_eq_true, Bool.not_eq_true'] at hboth
  obtain ⟨hmeaning, hfree⟩ := hboth
  have hok : checkSafety "(\\x{20})+" = .ok () := by
    refine hall _ branches (by decide) hparse hmeaning (fun n hn => (hfree n hn).1) ?_
    intro n hn opener kind inner hrepeats hcore halike
    have hambiguous : ambiguous n = false := (hfree n hn).2
    simp [ambiguous, hrepeats, hcore, anyComparable_iff.mpr halike] at hambiguous
  have herror : checkSafety "(\\x{20})+" =
      .error (.unsafePattern "(\\x{20})+" .nestedQuantifier) := by decide
  simp [herror] at hok

end NamePattern
end PromptWeave
