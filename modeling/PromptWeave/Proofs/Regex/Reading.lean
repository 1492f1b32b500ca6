import Mathlib.Data.List.TakeWhile
import Mathlib.Tactic.SplitIfs
import PromptWeave.Proofs.Text
import PromptWeave.Regex.Parser

/-! What is read off the front of a pattern.
Every reader gives back an end of its text. Where blanks count, an escape is a backslash, any
character, and then a text or a text in braces, of letters, digits and a few signs and of what the
name of its property holds. -/
namespace PromptWeave
namespace Regex

theorem consumed_append (used rest : List Char) : consumed (used ++ rest) rest = used := by
  simp [consumed]

/-! ### Plain texts -/

theorem notMem_of_all {chars cs : List Char} {p : Char → Bool} (hp : chars.any p = false)
    (h : cs.all p = true) : ∀ c ∈ cs, c ∉ chars := fun c hc hmem =>
  List.any_eq_false.mp hp c hmem (List.all_eq_true.mp h c hc)

def marks : List Char := ['(', ')', '[', ']', '\\', '\x7b']

def isPlain (c : Char) : Bool := !marks.contains c

theorem isPlain_of {p : Char → Bool} (hp : marks.any p = false) {c : Char} (h : p c = true) :
    isPlain c = true := by
  have hmarks : c ∉ marks := fun hc => List.any_eq_false.mp hp c hc h
  simpa [isPlain] using hmarks

def plainText (cs : List Char) : Bool := cs.all isPlain

@[simp] theorem plainText_nil : plainText [] = true := rfl

@[simp] theorem plainText_cons (c : Char) (cs : List Char) :
    plainText (c :: cs) = (isPlain c && plainText cs) := rfl

@[simp] theorem plainText_append (cs ds : List Char) :
    plainText (cs ++ ds) = (plainText cs && plainText ds) := by simp [plainText]

/-- What stands in an escape besides names: letters, digits, and the signs between a property and
its value. -/
def isCommon (c : Char) : Bool := c.isAlphanum || ['-', '!', '=', ':'].contains c

theorem isPlain_of_isCommon (c : Char) (h : isCommon c = true) : isPlain c = true :=
  isPlain_of (by decide) h

structure Alphabet where
  has : Char → Bool
  common : ∀ c, isCommon c = true → has c = true

namespace Alphabet

def plain : Alphabet := ⟨isPlain, isPlain_of_isCommon⟩

instance : Inhabited Alphabet := ⟨plain⟩

def Words (p : Alphabet) (cs : List Char) : Prop := cs.all p.has = true

theorem words_nil (p : Alphabet) : p.Words [] := rfl

theorem words_cons {p : Alphabet} {c : Char} {cs : List Char} :
    p.Words (c :: cs) ↔ p.has c = true ∧ p.Words cs := by simp [Words]

theorem words_append {p : Alphabet} {cs ds : List Char} :
    p.Words (cs ++ ds) ↔ p.Words cs ∧ p.Words ds := by simp [Words]

end Alphabet

variable {p : Alphabet}

def Closed (p : Alphabet) (cs : List Char) : Prop := ∃ inner, cs = inner ++ ['\x7d'] ∧ p.Words inner

theorem closed_brace : Closed p ['\x7d'] := ⟨[], rfl, p.words_nil⟩

theorem Closed.cons {c : Char} (hc : p.has c = true) {cs : List Char} (h : Closed p cs) :
    Closed p (c :: cs) := by
  obtain ⟨inner, rfl, hinner⟩ := h
  exact ⟨c :: inner, rfl, Alphabet.words_cons.mpr ⟨hc, hinner⟩⟩

def Tame (p : Alphabet) (cs : List Char) : Prop :=
  p.Words cs ∨ ∃ inner, cs = '\x7b' :: inner ∧ Closed p inner

theorem tame_nil : Tame p [] := Or.inl p.words_nil

theorem Tame.braces {cs : List Char} (h : Closed p cs) : Tame p ('\x7b' :: cs) :=
  Or.inr ⟨cs, rfl, h⟩

/-! ### What is left -/

/-- `rest` is what is left of `cs` behind a text that satisfies `P` where blanks count. -/
def Leaves (verbose : Bool) (P : List Char → Prop) (cs rest : List Char) : Prop :=
  ∃ used, cs = used ++ rest ∧ (verbose = false → P used)

namespace Leaves

variable {verbose : Bool} {P Q R : List Char → Prop} {cs ds rest : List Char}

theorem mono (hPQ : ∀ used, P used → Q used) (h : Leaves verbose P cs rest) :
    Leaves verbose Q cs rest := by
  obtain ⟨used, he, hused⟩ := h
  exact ⟨used, he, fun hv => hPQ used (hused hv)⟩

theorem refl (h : P []) : Leaves verbose P cs cs := ⟨[], rfl, fun _ => h⟩

theorem cons {c : Char} (hc : ∀ used, P used → Q (c :: used)) (h : Leaves verbose P cs rest) :
    Leaves verbose Q (c :: cs) rest := by
  obtain ⟨used, rfl, hused⟩ := h
  exact ⟨c :: used, rfl, fun hv => hc used (hused hv)⟩

theorem trans (hPQ : ∀ used used', P used → Q used' → R (used ++ used'))
    (h : Leaves verbose P cs ds) (h' : Leaves verbose Q ds rest) : Leaves verbose R cs rest := by
  obtain ⟨used, rfl, hused⟩ := h
  obtain ⟨used', rfl, hused'⟩ := h'
  exact ⟨used ++ used', by simp, fun hv => hPQ used used' (hused hv) (hused' hv)⟩

/-- What is left behind is told by what is left, so conditions on it hold together. -/
theorem all {ι : Type} [Inhabited ι] {P : ι → List Char → Prop}
    (h : ∀ i, Leaves verbose (P i) cs rest) :
    Leaves verbose (fun used => ∀ i, P i used) cs rest := by
  obtain ⟨used, rfl, -⟩ := h default
  refine ⟨used, rfl, fun hv i => ?_⟩
  obtain ⟨used', he, hused⟩ := h i
  rw [List.append_cancel_right he]
  exact hused hv

end Leaves

theorem dropBlanks_suffix (inComment : Bool) (cs : List Char) : dropBlanks inComment cs <:+ cs := by
  fun_induction dropBlanks inComment cs with
  | case1 => exact List.suffix_rfl
  | case2 c cs ih => exact ih.trans (List.suffix_cons c cs)
  | case3 c cs _ ih => exact ih.trans (List.suffix_cons c cs)
  | case4 cs _ ih => exact ih.trans (List.suffix_cons _ cs)
  | case5 c cs => exact List.suffix_rfl

theorem leaves_skip (verbose : Bool) (cs : List Char) :
    Leaves verbose (· = []) cs (skip verbose cs) := by
  cases verbose with
  | false => exact Leaves.refl rfl
  | true =>
    obtain ⟨used, he⟩ := dropBlanks_suffix false cs
    exact ⟨used, he.symm, by simp⟩

theorem Leaves.of_skip {verbose : Bool} {P : List Char → Prop} {cs rest : List Char}
    (h : Leaves verbose P (skip verbose cs) rest) : Leaves verbose P cs rest :=
  (leaves_skip verbose cs).trans (fun _ _ hnil hused => by simpa [hnil] using hused) h

theorem Leaves.to_skip {verbose : Bool} {P : List Char → Prop} {cs rest : List Char}
    (h : Leaves verbose P cs rest) : Leaves verbose P cs (skip verbose rest) :=
  h.trans (fun _ _ hused hnil => by simpa [hnil] using hused) (leaves_skip verbose rest)

/-! ### Numbers -/

theorem isUpper_iff (c : Char) : c.isUpper = true ↔ 65 ≤ c.toNat ∧ c.toNat ≤ 90 :=
  decide_eq_true_iff

theorem isLower_iff (c : Char) : c.isLower = true ↔ 97 ≤ c.toNat ∧ c.toNat ≤ 122 :=
  Bool.and_eq_true_iff.trans (and_congr decide_eq_true_iff decide_eq_true_iff)

theorem isAlphanum_of_le {c lo hi : Char} (h : lo ≤ c ∧ c ≤ hi)
    (hrange : 48 ≤ lo.toNat ∧ hi.toNat ≤ 57 ∨ 65 ≤ lo.toNat ∧ hi.toNat ≤ 90 ∨
      97 ≤ lo.toNat ∧ hi.toNat ≤ 122) : c.isAlphanum = true := by
  obtain ⟨hlo, hhi⟩ := h
  rw [Char.le_def, UInt32.le_iff_toNat_le, Char.toNat_val, Char.toNat_val] at hlo hhi
  have hparts : c.isAlphanum = (c.isUpper || c.isLower || c.isDigit) := rfl
  have hdigits : '0'.toNat = 48 ∧ '9'.toNat = 57 := ⟨rfl, rfl⟩
  rw [hparts, Bool.or_eq_true, Bool.or_eq_true, isUpper_iff, isLower_iff, Char.isDigit_iff_toNat]
  omega

theorem isCommon_of_hexValue? {c : Char} {d : Nat} (h : Text.hexValue? c = some d) :
    isCommon c = true := by
  have hdigit : c.isAlphanum = true := by
    unfold Text.hexValue? at h
    split_ifs at h with hnumber hsmall hlarge
    · exact isAlphanum_of_le hnumber (by decide)
    · exact isAlphanum_of_le hsmall (by decide)
    · exact isAlphanum_of_le hlarge (by decide)
  rw [isCommon, hdigit, Bool.true_or]

theorem fixedHex_leaves {verbose : Bool}
    {n acc k : Nat} {cs rest : List Char} (h : fixedHex verbose n acc cs = some (k, rest)) :
    Leaves verbose p.Words cs rest := by
  induction n generalizing acc cs with
  | zero =>
    simp only [fixedHex, Option.some.injEq, Prod.mk.injEq] at h
    exact h.2 ▸ Leaves.refl rfl
  | succ n ih =>
    cases cs with
    | nil => simp [fixedHex] at h
    | cons c cs =>
      obtain ⟨d, hd, h⟩ := Option.bind_eq_some_iff.mp h
      have hc : p.has c = true := p.common c (isCommon_of_hexValue? hd)
      exact (ih h).of_skip.cons fun used hused => Alphabet.words_cons.mpr ⟨hc, hused⟩

theorem bracedHex_leaves {verbose : Bool}
    {fuel acc k : Nat} {cs rest : List Char} (h : bracedHex verbose fuel acc cs = some (k, rest)) :
    Leaves verbose (Closed p) cs rest := by
  induction fuel generalizing acc cs with
  | zero => simp [bracedHex] at h
  | succ fuel ih =>
    cases cs with
    | nil => simp [bracedHex] at h
    | cons c cs =>
      rw [bracedHex] at h
      split_ifs at h with hc
      · simp only [Option.some.injEq, Prod.mk.injEq] at h
        rw [hc, ← h.2]
        exact (leaves_skip verbose cs).cons fun used (hnil : used = []) => hnil ▸ closed_brace
      · obtain ⟨d, hd, h⟩ := Option.bind_eq_some_iff.mp h
        exact (ih h).of_skip.cons fun used => Closed.cons (p.common c (isCommon_of_hexValue? hd))

theorem hexLiteral_leaves {verbose : Bool} {digits : Nat}
    {cs rest : List Char} {a : Atom} (h : hexLiteral verbose digits cs = some (a, rest)) :
    Leaves verbose (Tame p) cs rest := by
  refine Leaves.of_skip ?_
  simp only [hexLiteral] at h
  split at h
  next ds hds =>
    rw [hds]
    split at h
    next => simp at h
    next =>
      obtain ⟨⟨n, r⟩, hread, h⟩ := Option.bind_eq_some_iff.mp h
      obtain ⟨c, -, h⟩ := Option.bind_eq_some_iff.mp h
      cases h
      exact (bracedHex_leaves hread).of_skip.cons fun used => Tame.braces
  next =>
    obtain ⟨⟨n, r⟩, hread, h⟩ := Option.bind_eq_some_iff.mp h
    obtain ⟨c, -, h⟩ := Option.bind_eq_some_iff.mp h
    cases h
    exact (fixedHex_leaves hread).mono fun used => Or.inl

/-! ### Properties -/

def Query.plain (q : Query) : Bool := plainText q.name && q.value.all plainText

def Query.Spelled (p : Alphabet) (q : Query) : Prop := p.Words q.name ∧ ∀ v ∈ q.value, p.Words v

theorem Query.spelled_of_plain {q : Query} (h : q.plain = true) : q.Spelled .plain := by
  obtain ⟨hname, hvalue⟩ := Bool.and_eq_true_iff.mp h
  refine ⟨hname, fun v hv => ?_⟩
  rw [Option.mem_def.mp hv] at hvalue
  exact hvalue

theorem bracedName_leaves {verbose : Bool} {fuel : Nat} {cs name rest : List Char}
    (h : bracedName verbose fuel cs = some (name, rest)) :
    Leaves verbose (· = name ++ ['\x7d']) cs rest := by
  induction fuel generalizing cs name with
  | zero => simp [bracedName] at h
  | succ fuel ih =>
    cases cs with
    | nil => simp [bracedName] at h
    | cons c cs =>
      rw [bracedName] at h
      split_ifs at h with hc
      · cases h
        rw [hc]
        exact (Leaves.refl (P := (· = [])) rfl).cons (by simp)
      · obtain ⟨⟨more, r⟩, hread, h⟩ := Option.bind_eq_some_iff.mp h
        cases h
        exact (ih hread).of_skip.cons (by simp)

theorem eq_append_of_cutUnequal? {cs a b : List Char} (h : cutUnequal? cs = some (a, b)) :
    cs = a ++ '!' :: '=' :: b := by
  fun_induction cutUnequal? cs generalizing a with
  | case1 cs => cases h; rfl
  | case2 => simp at h
  | case3 c cs _ ih =>
    obtain ⟨⟨a', b'⟩, hcut, he⟩ := Option.map_eq_some_iff.mp h
    cases he
    rw [ih hcut]
    rfl

theorem words_of_queryOfName {negated : Bool} {name : List Char}
    (h : (queryOfName negated name).Spelled p) : p.Words name := by
  have hsigns : p.has '!' = true ∧ p.has '=' = true ∧ p.has ':' = true :=
    ⟨p.common _ (by decide), p.common _ (by decide), p.common _ (by decide)⟩
  unfold queryOfName at h
  split at h
  next n v hcut =>
    rw [eq_append_of_cutUnequal? hcut]
    simp [Alphabet.words_append, Alphabet.words_cons, hsigns, h.1, h.2 v rfl]
  next n v _ hcut =>
    rw [Text.eq_append_of_cutAt? hcut]
    simp [Alphabet.words_append, Alphabet.words_cons, hsigns, h.1, h.2 v rfl]
  next n v _ _ hcut =>
    rw [Text.eq_append_of_cutAt? hcut]
    simp [Alphabet.words_append, Alphabet.words_cons, hsigns, h.1, h.2 v rfl]
  next => exact h.1

theorem property_leaves {verbose negated : Bool}
    {cs rest : List Char} {q : Query} (h : property verbose negated cs = some (q, rest)) :
    Leaves verbose (fun used => q.Spelled p → Tame p used) cs rest := by
  refine Leaves.of_skip ?_
  rw [property] at h
  split at h
  next => simp at h
  next => simp at h
  next ds hds =>
    obtain ⟨⟨name, r⟩, hread, h⟩ := Option.bind_eq_some_iff.mp h
    cases h
    rw [hds]
    refine (bracedName_leaves hread).of_skip.cons fun used he hq => ?_
    exact Tame.braces ⟨name, he, words_of_queryOfName hq⟩
  next c ds _ _ hds =>
    cases h
    rw [hds]
    refine (leaves_skip verbose ds).cons fun used hnil hq => Or.inl ?_
    rw [hnil]
    exact hq.1

/-! ### Escapes -/

theorem isCommon_of_isEdgeName {c : Char} (h : isEdgeName c = true) : isCommon c = true := by
  simp only [isEdgeName, Bool.or_eq_true, Bool.and_eq_true, decide_eq_true_eq, beq_iff_eq] at h
  rcases h with (hsmall | hlarge) | rfl
  · rw [isCommon, isAlphanum_of_le hsmall (by decide), Bool.true_or]
  · rw [isCommon, isAlphanum_of_le hlarge (by decide), Bool.true_or]
  · decide

theorem edgeName_leaves (verbose : Bool) (fuel : Nat)
    (cs : List Char) : Leaves verbose p.Words cs (edgeName verbose fuel cs).2 := by
  induction fuel generalizing cs with
  | zero => exact Leaves.refl rfl
  | succ fuel ih =>
    cases cs with
    | nil => exact Leaves.refl rfl
    | cons c cs =>
      rw [edgeName]
      split_ifs with hc
      · have hc' : p.has c = true := p.common c (isCommon_of_isEdgeName hc)
        exact (ih (skip verbose cs)).of_skip.cons fun used hused =>
          Alphabet.words_cons.mpr ⟨hc', hused⟩
      · exact Leaves.refl rfl

theorem wordEdge_leaves {verbose : Bool}
    {cs rest : List Char} {a : Atom} (h : wordEdge verbose cs = some (a, rest)) :
    Leaves verbose (Tame p) cs rest := by
  unfold wordEdge at h
  split at h
  next inner =>
    split at h
    next => simp at h
    next c ds hds =>
      split_ifs at h with hc
      · split at h
        next name r hname =>
          obtain ⟨e, -, he⟩ := Option.map_eq_some_iff.mp h
          cases he
          have hread : Leaves verbose p.Words _ _ :=
            edgeName_leaves verbose (('\x7b' :: inner).length + 1) (c :: ds)
          rw [hname, ← hds] at hread
          have hbrace : Leaves verbose (· = ['\x7d']) ('\x7d' :: rest) rest :=
            ⟨['\x7d'], rfl, fun _ => rfl⟩
          have hclosed : Leaves verbose (Closed p) (skip verbose inner) rest :=
            hread.trans (fun used used' hused he => ⟨used, by rw [he], hused⟩) hbrace
          exact hclosed.of_skip.cons fun used => Tame.braces
        next => simp at h
      · cases h
        exact Leaves.refl tame_nil
  next =>
    cases h
    exact Leaves.refl tame_nil

namespace CharSet

mutual
def flat : CharSet → Bool
  | .ascii _ _ | .bracket _ _ => false
  | .query q => q.plain
  | .union parts => flatAll parts
  | .op _ lhs rhs => flat lhs && flat rhs
  | .literal _ | .range _ _ | .perl _ _ => true
def flatAll : List CharSet → Bool
  | [] => true
  | s :: ss => flat s && flatAll ss
end

theorem flatAll_eq_all (parts : List CharSet) : flatAll parts = parts.all flat := by
  induction parts with
  | nil => rfl
  | cons s ss ih => simp [flatAll, ih]

end CharSet

def Atom.plain : Atom → Bool
  | .query q => q.plain
  | .set (.bracket _ inner) | .set inner => inner.flat
  | .literal _ | .dot | .assertion _ | .perl _ _ => true

/-- What stands in an escape behind its first character: nothing but common characters and those in
the name of its property, and braces around them. -/
def Atom.Rest (a : Atom) (cs : List Char) : Prop :=
  ∀ p, (∀ q, a = .query q → q.Spelled p) → Tame p cs

theorem Atom.Rest.tame {a : Atom} {cs : List Char} (h : a.Rest cs) (ha : a.plain = true) :
    Tame .plain cs := by
  refine h .plain ?_
  rintro q rfl
  exact Query.spelled_of_plain ha

theorem escape_leaves {verbose : Bool} {c : Char} {cs rest : List Char} {a : Atom}
    (h : escape verbose (c :: cs) = some (a, rest)) : Leaves verbose a.Rest cs rest := by
  refine Leaves.all fun p => ?_
  rw [escape] at h
  split_ifs at h
  · exact (hexLiteral_leaves h).mono fun used hused _ => hused
  · exact (hexLiteral_leaves h).mono fun used hused _ => hused
  · exact (hexLiteral_leaves h).mono fun used hused _ => hused
  · obtain ⟨⟨q, r⟩, hread, h⟩ := Option.bind_eq_some_iff.mp h
    cases h
    exact (property_leaves hread).mono fun used hused ha => hused (ha q rfl)
  · exact (wordEdge_leaves h).mono fun used hused _ => hused
  · cases h
    exact Leaves.refl fun _ => tame_nil
  · split at h
    all_goals cases h
    all_goals exact Leaves.refl fun _ => tame_nil

theorem simpleAtom_leaves {verbose : Bool} {c : Char} {cs rest : List Char} {a : Atom}
    (h : simpleAtom verbose (c :: cs) = some (a, rest)) :
    Leaves verbose (fun used => (c = '\\' ∧ ∃ d more, used = d :: more ∧ a.Rest more) ∨
      (c ≠ '\\' ∧ used = [])) cs rest := by
  by_cases hc : c = '\\'
  · subst hc
    cases cs with
    | nil => simp [simpleAtom, escape] at h
    | cons d cs =>
      exact (escape_leaves h).cons fun used hused => Or.inl ⟨rfl, d, used, rfl, hused⟩
  · have he : cs = rest := by
      unfold simpleAtom at h
      split at h
      next he => cases he
      next he => exact absurd (List.cons.inj he).1 hc
      all_goals next he =>
        cases h
        exact (List.cons.inj he).2
    exact he ▸ Leaves.refl (Or.inr ⟨hc, rfl⟩)

end Regex
end PromptWeave
