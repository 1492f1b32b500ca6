import PromptWeave.Proofs.Regex.Within
import PromptWeave.Proofs.Unicode.Named
import PromptWeave.Regex.Meaning

/-! Patterns that have a meaning.
Every property that such a pattern asks for exists, so its name is plain. A pattern with a meaning
keeps to what is easily read if it does so in its modes, its brackets and its names of groups. -/
namespace PromptWeave
namespace Regex

/-! ### Names of properties -/

/-- The characters of names that exist, and what else stands in an escape. -/
def Alphabet.names : Alphabet where
  has c := isCommon c || !Unicode.isForeign c
  common c hc := by rw [hc, Bool.true_or]

theorem words_names {cs : List Char} (h : ∀ c, Unicode.isForeign c = true → c ∉ cs) :
    Alphabet.names.Words cs := by
  refine List.all_eq_true.mpr fun c hc => Bool.or_eq_true_iff.mpr (Or.inr ?_)
  by_contra hforeign
  exact h c (by simpa using hforeign) hc

theorem notMem_of_words {cs : List Char} (h : Alphabet.names.Words cs) {c : Char}
    (hc : Alphabet.names.has c = false) : c ∉ cs := by
  intro hmem
  exact absurd (List.all_eq_true.mp h c hmem) (by simp [hc])

theorem plainText_of_words {cs : List Char} (h : Alphabet.names.Words cs) : plainText cs = true :=
  List.all_eq_true.mpr fun c hc => isPlain_of (by decide) (List.all_eq_true.mp h c hc)

theorem Query.spelled_of_ranges {m : Mode} {q : Query} {s : RangeSet} (h : q.ranges m = some s) :
    q.Spelled .names := by
  obtain ⟨negated, name, value⟩ := q
  cases value with
  | none =>
    obtain ⟨t, hasked, -⟩ := Option.bind_eq_some_iff.mp h
    exact ⟨words_names fun c hc => Unicode.notMem_of_named? hc hasked, by simp⟩
  | some v =>
    obtain ⟨t, hasked, -⟩ := Option.bind_eq_some_iff.mp h
    have hname := words_names fun c hc => (Unicode.notMem_of_valued? hc hasked).1
    have hv := words_names fun c hc => (Unicode.notMem_of_valued? hc hasked).2
    exact ⟨hname, by simpa using hv⟩

theorem Query.plain_of_spelled {q : Query} (h : q.Spelled .names) : q.plain = true := by
  obtain ⟨negated, name, value⟩ := q
  refine Bool.and_eq_true_iff.mpr ⟨plainText_of_words h.1, ?_⟩
  cases value with
  | none => rfl
  | some v => exact plainText_of_words (h.2 v rfl)

/-! ### Brackets -/

namespace CharSet

mutual
def unnested : CharSet → Bool
  | .ascii _ _ | .bracket _ _ => false
  | .union parts => unnestedAll parts
  | .op _ lhs rhs => unnested lhs && unnested rhs
  | .literal _ | .range _ _ | .query _ | .perl _ _ => true
def unnestedAll : List CharSet → Bool
  | [] => true
  | s :: ss => unnested s && unnestedAll ss
end

mutual
theorem flat_of_ranges {m : Mode} : (s : CharSet) → {t : RangeSet} → s.ranges m = some t →
    s.unnested = true → s.flat = true
  | .literal _, _, _, _ | .range _ _, _, _, _ | .perl _ _, _, _, _ => rfl
  | .query _, _, h, _ => Query.plain_of_spelled (Query.spelled_of_ranges h)
  | .union parts, _, h, hunnested => by
    obtain ⟨r, hparts, -⟩ := Option.map_eq_some_iff.mp h
    exact flatAll_of_ranges parts hparts hunnested
  | .op _ lhs rhs, _, h, hunnested => by
    obtain ⟨a, hlhs, h⟩ := Option.bind_eq_some_iff.mp h
    obtain ⟨b, hrhs, -⟩ := Option.bind_eq_some_iff.mp h
    obtain ⟨hl, hr⟩ := Bool.and_eq_true_iff.mp hunnested
    exact Bool.and_eq_true_iff.mpr ⟨flat_of_ranges lhs hlhs hl, flat_of_ranges rhs hrhs hr⟩
theorem flatAll_of_ranges {m : Mode} : (ss : List CharSet) → {t : RangeSet} →
    rangesAll m ss = some t → unnestedAll ss = true → flatAll ss = true
  | [], _, _, _ => rfl
  | s :: ss, _, h, hunnested => by
    obtain ⟨a, hs, h⟩ := Option.bind_eq_some_iff.mp h
    obtain ⟨b, hss, -⟩ := Option.bind_eq_some_iff.mp h
    obtain ⟨hfirst, hrest⟩ := Bool.and_eq_true_iff.mp hunnested
    exact Bool.and_eq_true_iff.mpr ⟨flat_of_ranges s hs hfirst, flatAll_of_ranges ss hss hrest⟩
end

end CharSet

def Atom.unnested : Atom → Bool
  | .set (.bracket _ inner) | .set inner => inner.unnested
  | .query _ | .literal _ | .dot | .assertion _ | .perl _ _ => true

theorem Atom.plain_of_expr {m : Mode} {a : Atom} {e : Expr} (h : a.expr m = some e)
    (hunnested : a.unnested = true) : a.plain = true := by
  unfold Atom.unnested at hunnested
  split at hunnested
  next negated inner =>
    obtain ⟨t, hranges, -⟩ := Option.map_eq_some_iff.mp h
    obtain ⟨r, hinner, -⟩ := Option.bind_eq_some_iff.mp hranges
    exact CharSet.flat_of_ranges inner hinner hunnested
  next inner hbracket =>
    obtain ⟨t, hranges, -⟩ := Option.map_eq_some_iff.mp h
    have hflat := CharSet.flat_of_ranges inner hranges hunnested
    cases inner with
    | bracket negated inner => exact absurd rfl (hbracket negated inner)
    | _ => exact hflat
  next q =>
    obtain ⟨t, hranges, -⟩ := Option.map_eq_some_iff.mp h
    exact Query.plain_of_spelled (Query.spelled_of_ranges hranges)
  all_goals rfl

/-! ### Atoms in a pattern -/

open Node

mutual
theorem atom_of_expr {s : List Char} {a : Atom} : (n : Node) → {m : Mode} → {r : Expr × Mode} →
    expr m n = some r → .atom s a ∈ within n → ∃ m' e, a.expr m' = some e
  | .blank _, _, _, _, ha | .flags _ _, _, _, _, ha => by simp [within] at ha
  | .atom _ _, m, r, h, ha => by
    cases List.mem_singleton.mp ha
    obtain ⟨e, he, -⟩ := Option.map_eq_some_iff.mp h
    exact ⟨m, e, he⟩
  | .repeated n _ _, m, r, h, ha => by
    obtain ⟨r', hn, -⟩ := Option.bind_eq_some_iff.mp h
    exact atom_of_expr n hn (List.mem_of_ne_of_mem (by simp) ha)
  | .group _ kind branches, m, r, h, ha => by
    obtain ⟨r', hbranches, -⟩ := Option.bind_eq_some_iff.mp h
    exact atom_of_exprBranches branches hbranches (List.mem_of_ne_of_mem (by simp) ha)
theorem atom_of_exprAll {s : List Char} {a : Atom} : (ns : List Node) → {m : Mode} →
    {r : List Expr × Mode} → exprAll m ns = some r → .atom s a ∈ withinAll ns →
    ∃ m' e, a.expr m' = some e
  | [], _, _, _, ha => by simp [withinAll] at ha
  | n :: ns, m, r, h, ha => by
    obtain ⟨r', hn, h⟩ := Option.bind_eq_some_iff.mp h
    obtain ⟨r'', hns, -⟩ := Option.bind_eq_some_iff.mp h
    rcases List.mem_append.mp ha with ha | ha
    · exact atom_of_expr n hn ha
    · exact atom_of_exprAll ns hns ha
theorem atom_of_exprBranches {s : List Char} {a : Atom} : (bs : List (List Node)) → {m : Mode} →
    {r : List Expr × Mode} → exprBranches m bs = some r → .atom s a ∈ withinBranches bs →
    ∃ m' e, a.expr m' = some e
  | [], _, _, _, ha => by simp [withinBranches] at ha
  | b :: bs, m, r, h, ha => by
    obtain ⟨r', hb, h⟩ := Option.bind_eq_some_iff.mp h
    obtain ⟨r'', hbs, -⟩ := Option.bind_eq_some_iff.mp h
    rcases List.mem_append.mp ha with ha | ha
    · exact atom_of_exprAll b hb ha
    · exact atom_of_exprBranches bs hbs ha
end

variable {branches : Branches}

theorem atom_of_meaning (h : (meaning branches).isSome = true) {s : List Char} {a : Atom}
    (ha : .atom s a ∈ withinBranches branches) : ∃ m e, a.expr m = some e := by
  obtain ⟨e, he⟩ := Option.isSome_iff_exists.mp h
  obtain ⟨r, hbranches, -⟩ := Option.bind_eq_some_iff.mp he
  exact atom_of_exprBranches branches hbranches ha

theorem spelled_of_meaning (h : (meaning branches).isSome = true) {s : List Char} {q : Query}
    (hq : .atom s (.query q) ∈ withinBranches branches) : q.Spelled .names := by
  obtain ⟨m, e, he⟩ := atom_of_meaning h hq
  obtain ⟨t, hranges, -⟩ := Option.map_eq_some_iff.mp he
  exact Query.spelled_of_ranges hranges

/-- Whether a node keeps to what the check knows: blanks count, names of groups are plain, and no
brackets stand inside brackets. -/
def Node.ordinary : Node → Bool
  | .blank _ | .repeated _ _ _ => true
  | .atom _ a => a.unnested
  | .flags _ fs => !fs.state .verbose false
  | .group _ kind _ => kind.plainName && !verboseIn false kind

theorem readable_of_ordinary (h : (meaning branches).isSome = true)
    (hordinary : (withinBranches branches).all Node.ordinary = true) :
    ∀ n ∈ withinBranches branches, n.readable = true := by
  intro n hn
  have hself := List.all_eq_true.mp hordinary n hn
  cases n with
  | atom s a =>
    obtain ⟨m, e, he⟩ := atom_of_meaning h hn
    exact Atom.plain_of_expr he hself
  | blank s => rfl
  | repeated n s q => rfl
  | flags s fs => exact hself
  | group opener kind inner => exact hself

end Regex
end PromptWeave
