import PromptWeave.Proofs.NamePattern.Reported
import PromptWeave.Regex.Meaning

/-! Nested quantifiers.
A quantifier that repeats a group and one that repeats inside it make a pattern slow. In a plain
pattern the check finds them, unless a question mark comes first behind the group. -/
namespace PromptWeave

namespace Regex

def Quantifier.repeats : Quantifier → Bool
  | .optional => false
  | .star | .plus | .counted _ _ => true

namespace Node

def core : Node → Node
  | .repeated n _ _ => core n
  | n => n

def firstQuantifier? : Node → Option Quantifier
  | .repeated n _ q => (firstQuantifier? n).or (some q)
  | _ => none

def repeats : Node → Bool
  | .repeated n _ q => q.repeats || repeats n
  | _ => false

/-- Whether a node is a group that is repeated and holds a repetition. -/
def nested (n : Node) : Bool :=
  n.repeats && match n.core with
    | .group _ _ branches => (withinBranches branches).any repeats
    | _ => false

theorem exists_first : (n : Node) → (s : List Char) → (q : Quantifier) → ∃ s' q',
    .repeated n.core s' q' ∈ within (.repeated n s q) ∧
      (Node.repeated n s q).firstQuantifier? = some q'
  | .repeated n s q, s', q' => by
    obtain ⟨t, r, hmem, hfirst⟩ := exists_first n s q
    refine ⟨t, r, List.mem_cons_of_mem _ hmem, ?_⟩
    rw [firstQuantifier?, hfirst]
    rfl
  | .blank _, s, q | .atom _ _, s, q | .flags _ _, s, q | .group _ _ _, s, q =>
    ⟨s, q, mem_within_self _, rfl⟩

theorem exists_repeated_of_repeats : (n : Node) → n.repeats = true →
    ∃ n' s q, .repeated n' s q ∈ within n ∧ q.repeats = true
  | .repeated n s q, h => by
    rcases Bool.or_eq_true_iff.mp h with hq | hn
    · exact ⟨n, s, q, mem_within_self _, hq⟩
    · obtain ⟨n', s', q', hmem, hq'⟩ := exists_repeated_of_repeats n hn
      exact ⟨n', s', q', List.mem_cons_of_mem _ hmem, hq'⟩

end Node
end Regex

namespace NamePattern

open Regex Regex.Node

theorem sees_of_repeatsAt {s : List Char} (h : repeatsAt s = true) : sees 0 s = true := by
  cases s with
  | nil => simp [repeatsAt] at h
  | cons c cs =>
    have hback : c ≠ '\\' := fun he => by simp [he, repeatsAt] at h
    have hclass : c ≠ '[' := fun he => by simp [he, repeatsAt] at h
    simp [sees, hback, hclass, h]

def Shows (s : List Char) (q : Quantifier) : Prop :=
  q.repeats = true ∧ ∀ c ∈ s, Text.isBlank c = false

theorem repeatsAt_iff {n : Node} {s : List Char} {q : Quantifier}
    (hproper : (Node.repeated n s q).Proper false) : repeatsAt s = true ↔ Shows s q := by
  obtain ⟨-, blank, c, mark, rfl, hgap, hc, htext⟩ := hproper
  have hq : q ≠ .optional ↔ q.repeats = true := by cases q <;> simp [Quantifier.repeats]
  have hmarks : quantifierMarks.any Text.isBlank = false := by decide
  have hfirst : Text.isBlank c = false := by simpa using List.any_eq_false.mp hmarks c hc
  rw [eq_nil_of_gap hgap, List.nil_append, repeatsAt_quantifierText (htext rfl), hq, Shows,
    List.forall_mem_cons, and_iff_right hfirst]

/-- Of the quantifiers that hold no blanks the check sees those that repeat. -/
theorem repeatsAt_of_plain {n : Node} {s : List Char} {q : Quantifier}
    (hproper : (Node.repeated n s q).Proper false) (hplain : (Node.repeated n s q).plain = true) :
    repeatsAt s = true ↔ q.repeats = true := by
  have hblank : ∀ c ∈ s, Text.isBlank c = false := fun c hc => by
    simpa using List.all_eq_true.mp hplain c hc
  rw [repeatsAt_iff hproper, Shows, and_iff_left hblank]

theorem checkSafety_eq_error_iff {pattern : String} :
    (∃ h, checkSafety pattern = .error (.unsafePattern pattern h)) ↔
      (hazard? pattern.toList).isSome = true := by
  unfold checkSafety
  cases hazard? pattern.toList <;> simp

theorem hazardous_of_repeats {opener : List Char} {kind : GroupKind} {branches : Branches} {m : Node}
    (hplain : ∀ k ∈ withinBranches branches, k.Proper false ∧ k.plain = true)
    (hm : m ∈ withinBranches branches) (hrepeats : m.repeats = true) :
    hazardous (.group opener kind branches) = true := by
  obtain ⟨n, s, q, hmem, hq⟩ := exists_repeated_of_repeats m hrepeats
  have hwithin : .repeated n s q ∈ withinBranches branches := withinBranches_trans hmem branches hm
  obtain ⟨hproper, hplain'⟩ := hplain _ hwithin
  have hsees : sees 0 (words (.repeated n s q)) = true :=
    sees_of_repeatsAt ((repeatsAt_of_plain hproper hplain').mpr hq)
  have hseen : seen (within (.group opener kind branches)) = true :=
    List.any_eq_true.mpr ⟨_, List.mem_cons_of_mem _ hwithin, hsees⟩
  simp [hazardous, hseen]

theorem exists_reported_of_nested {n : Node}
    (hplain : ∀ m ∈ within n, m.Proper false ∧ m.plain = true) (hnested : n.nested = true)
    (hfirst : n.firstQuantifier? ≠ some .optional) : ∃ m ∈ within n, reported m = true := by
  obtain ⟨hrepeats, hinner⟩ := Bool.and_eq_true_iff.mp hnested
  cases n with
  | blank s => simp [repeats] at hrepeats
  | atom s a => simp [repeats] at hrepeats
  | flags s f => simp [repeats] at hrepeats
  | group opener kind branches => simp [repeats] at hrepeats
  | repeated n s q =>
    obtain ⟨s', q', hmem, hq'⟩ := exists_first n s q
    refine ⟨_, hmem, ?_⟩
    have hrepeats' : q'.repeats = true := by
      cases q' with
      | optional => exact absurd hq' hfirst
      | star => rfl
      | plus => rfl
      | counted min max => rfl
    obtain ⟨hproper, hplain'⟩ := hplain _ hmem
    have hbehind : repeatsAt s' = true := (repeatsAt_of_plain hproper hplain').mpr hrepeats'
    rw [core] at hinner
    split at hinner
    next opener kind branches hcore =>
      rw [hcore] at hmem ⊢
      obtain ⟨m, hm, hm'⟩ := List.any_eq_true.mp hinner
      have hbelow : ∀ k ∈ withinBranches branches, k ∈ within (.repeated n s q) := fun k hk =>
        within_trans (List.mem_cons_of_mem _ (List.mem_cons_of_mem _ hk)) _ hmem
      have hhazardous : hazardous (.group opener kind branches) = true :=
        hazardous_of_repeats (fun k hk => hplain k (hbelow k hk)) hm hm'
      simp [reported, hbehind, hhazardous]
    next => simp at hinner

/-- Where the check finds nested quantifiers. In a legible pattern it finds what is reported. A plain
pattern is legible, and its nested quantifiers are found where the first one is not optional. -/
theorem checkSafety_nested {pattern : String} {branches : Branches}
    (hlength : pattern.length ≤ maxLength) (hparse : parse pattern.toList = some branches) :
    (legible branches = true → ((∃ h, checkSafety pattern = .error (.unsafePattern pattern h)) ↔
      ∃ n ∈ withinBranches branches, reported n = true)) ∧
    ((withinBranches branches).all Node.plain = true → legible branches = true ∧
      ∀ n ∈ withinBranches branches, n.nested = true → n.firstQuantifier? ≠ some .optional →
        ∃ h, checkSafety pattern = .error (.unsafePattern pattern h)) := by
  have hiff : legible branches = true →
      ((∃ h, checkSafety pattern = .error (.unsafePattern pattern h)) ↔
        ∃ n ∈ withinBranches branches, reported n = true) := fun hlegible => by
    have hlength' : pattern.toList.length ≤ maxLength := by rwa [String.length_toList]
    rw [checkSafety_eq_error_iff, hazard?_isSome hlength' hparse hlegible, List.any_eq_true]
  refine ⟨hiff, fun hplain => ?_⟩
  have hlegible : legible branches = true := legible_of_plain hparse hplain
  refine ⟨hlegible, fun n hn hnested hfirst => (hiff hlegible).mpr ?_⟩
  have hplain' := List.all_eq_true.mp hplain
  have hwithin : ∀ m ∈ within n, m ∈ withinBranches branches := fun m hm =>
    withinBranches_trans hm branches hn
  have hproper : ∀ m ∈ within n, m.Proper false ∧ m.plain = true := fun m hm =>
    ⟨proper_of_parse_plain hparse hplain' m (hwithin m hm), hplain' m (hwithin m hm)⟩
  obtain ⟨m, hm, hreported⟩ := exists_reported_of_nested hproper hnested hfirst
  exact ⟨m, hwithin m hm, hreported⟩

/-- An escape, a class with a parenthesis and a lazy count in a group with flags, under a lazy
quantifier. -/
theorem checkSafety_nested_flags :
    "(?i:[^)*]\\)x{2,}?)+?".length ≤ maxLength ∧ ∃ branches,
      parse "(?i:[^)*]\\)x{2,}?)+?".toList = some branches ∧ legible branches = true ∧
      (∃ n ∈ withinBranches branches, n.nested = true ∧ n.firstQuantifier? ≠ some .optional) ∧
      ∃ h, checkSafety "(?i:[^)*]\\)x{2,}?)+?" =
        .error (.unsafePattern "(?i:[^)*]\\)x{2,}?)+?" h) := by
  have hlength : "(?i:[^)*]\\)x{2,}?)+?".length ≤ maxLength := by decide
  have hsome : (parse "(?i:[^)*]\\)x{2,}?)+?".toList).any (fun branches =>
      (withinBranches branches).all Node.plain && (withinBranches branches).any fun n =>
        n.nested && n.firstQuantifier? ≠ some .optional) = true := by decide +kernel
  obtain ⟨branches, hparse, hall⟩ := (Option.any_eq_true _ _).mp hsome
  simp only [Bool.and_eq_true, List.any_eq_true, decide_eq_true_eq] at hall
  obtain ⟨hplain, n, hn, hnested, hfirst⟩ := hall
  obtain ⟨hlegible, hfound⟩ := (checkSafety_nested hlength hparse).2 hplain
  exact ⟨hlength, branches, hparse, hlegible, ⟨n, hn, hnested, hfirst⟩, hfound n hn hnested hfirst⟩

/-- A class of letters ends the brackets around it for the check, and the parenthesis behind it the
group. -/
theorem nested_quantifier_missed :
    ¬ ∀ (pattern : String) (branches : Branches), pattern.length ≤ maxLength →
      parse pattern.toList = some branches → (meaning branches).isSome = true →
      ∀ n ∈ withinBranches branches, n.nested = true →
        ∃ h, checkSafety pattern = .error (.unsafePattern pattern h) := by
  intro hall
  have hsome : (parse "([[:alpha:])]x+)+".toList).any (fun branches =>
      (meaning branches).isSome && (withinBranches branches).any nested) = true := by decide +kernel
  obtain ⟨branches, hparse, hbranches⟩ := (Option.any_eq_true _ _).mp hsome
  obtain ⟨hmeaning, hany⟩ := Bool.and_eq_true_iff.mp hbranches
  obtain ⟨n, hn, hnested⟩ := List.any_eq_true.mp hany
  obtain ⟨h, herror⟩ := hall _ branches (by decide) hparse hmeaning n hn hnested
  have hok : checkSafety "([[:alpha:])]x+)+" = .ok () := by decide
  simp [hok] at herror

end NamePattern
end PromptWeave
