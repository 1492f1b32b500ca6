import Mathlib.Algebra.Group.Nat.Defs
import Mathlib.Tactic.SplitIfs
import PromptWeave.Unicode.Case

/-! Capitals of capitals.
No character that a capital is written with has another capital, so a text in capitals stays as it
is. The characters that have another capital are collected as the bits of one number, in which each
capital of the tables is looked up. -/
namespace PromptWeave
namespace Unicode

namespace CaseRun

def sources (r : CaseRun) : List Nat := (List.range r.count).map fun i => r.start + i * r.step

def targets (r : CaseRun) : List Nat := r.sources.map fun (n : Nat) => (n + r.offset).toNat

theorem move?_eq_some {r : CaseRun} {n m : Nat} (h : r.move? n = some m) :
    n ∈ r.sources ∧ m ∈ r.targets := by
  rw [move?] at h
  split_ifs at h with hn
  obtain ⟨hstart, hend, hstep⟩ := hn
  obtain ⟨i, hi⟩ := Nat.dvd_of_mod_eq_zero hstep
  rw [Nat.mul_comm] at hi
  have hcount : i < r.count := by
    refine Nat.lt_of_not_le fun hle => ?_
    have hmul := Nat.mul_le_mul_right r.step hle
    omega
  have hsource : n ∈ r.sources := List.mem_map.mpr ⟨i, List.mem_range.mpr hcount, by omega⟩
  exact ⟨hsource, List.mem_map.mpr ⟨n, hsource, Option.some.inj h⟩⟩

end CaseRun

/-- The characters outside ASCII that have another capital. -/
def sources : List Nat := upperRuns.flatMap CaseRun.sources ++ upperSequences.map (·.1)

def targets : List Nat := upperRuns.flatMap CaseRun.targets ++ upperSequences.flatMap (·.2)

def bits : List Nat → Nat
  | [] => 0
  | n :: ns => bits ns ||| 2 ^ n

theorem testBit_bits {ns : List Nat} {n : Nat} (h : n ∈ ns) : (bits ns).testBit n = true := by
  induction ns with
  | nil => cases h
  | cons m ns ih =>
    rw [bits, Nat.testBit_or, Nat.testBit_two_pow, Bool.or_eq_true, decide_eq_true_eq]
    rcases List.mem_cons.mp h with rfl | h
    · exact Or.inr rfl
    · exact Or.inl (ih h)

/-- Whether a number is that of a capital of ASCII, or of a character outside ASCII that has no other
capital. -/
def settled (n : Nat) : Bool :=
  (Nat.ble 65 n && Nat.ble n 90) ||
    (Nat.ble 128 n && (Nat.blt n 0xD800 || (Nat.ble 0xE000 n && Nat.blt n 0x110000)) &&
      !(bits sources).testBit n)

theorem settled_targets : targets.all settled = true := by decide +kernel

theorem toUpper_toUpper : ∀ n < 128, (Char.ofNat n).toUpper.toNat < 128 ∧
    (Char.ofNat n).toUpper.toUpper = (Char.ofNat n).toUpper := by decide

theorem upperChar_of_ascii : ∀ n ≤ 90, 65 ≤ n → upperChar (Char.ofNat n) = [Char.ofNat n] := by
  decide

theorem upperChar_of_notMem {n : Nat} (hascii : 128 ≤ n) (hvalid : n.isValidChar)
    (h : n ∉ sources) : upperChar (Char.ofNat n) = [Char.ofNat n] := by
  have hnat : (Char.ofNat n).toNat = n := by
    rw [Char.ofNat, dif_pos hvalid]
    rfl
  have hlookup : upperSequences.lookup n = none := by
    refine List.lookup_eq_none_iff.mpr fun p hp => bne_iff_ne.mpr ?_
    rintro rfl
    exact h (List.mem_append_right _ (List.mem_map.mpr ⟨p, hp, rfl⟩))
  have hfind : upperRuns.findSome? (·.move? n) = none := by
    refine List.findSome?_eq_none_iff.mpr fun r hr => Option.eq_none_iff_forall_ne_some.mpr ?_
    intro m hm
    have hmem := (CaseRun.move?_eq_some hm).1
    exact h (List.mem_append_left _ (List.mem_flatMap.mpr ⟨r, hr, hmem⟩))
  rw [upperChar, hnat, if_neg (by omega), hlookup, hfind]

theorem upperChar_of_mem_targets {n : Nat} (h : n ∈ targets) :
    upperChar (Char.ofNat n) = [Char.ofNat n] := by
  have hn := List.all_eq_true.mp settled_targets n h
  simp only [settled, Bool.or_eq_true, Bool.and_eq_true, Nat.blt_eq, Nat.ble_eq,
    Bool.not_eq_true'] at hn
  rcases hn with ⟨hlow, hhigh⟩ | ⟨⟨hascii, hvalid⟩, hbit⟩
  · exact upperChar_of_ascii n hhigh hlow
  · refine upperChar_of_notMem hascii (by rw [Nat.isValidChar]; omega) fun hmem => ?_
    rw [testBit_bits hmem] at hbit
    cases hbit

theorem upperChar_of_mem {c d : Char} (h : d ∈ upperChar c) : upperChar d = [d] := by
  rw [upperChar] at h
  by_cases hc : c.toNat < 128
  · rw [if_pos hc, List.mem_singleton] at h
    obtain ⟨hd, hsame⟩ := toUpper_toUpper c.toNat hc
    rw [Char.ofNat_toNat, ← h] at hd hsame
    rw [upperChar, if_pos hd, hsame]
  · rw [if_neg hc] at h
    split at h
    next ns hlookup =>
      obtain ⟨n, hn, rfl⟩ := List.mem_map.mp h
      obtain ⟨front, behind, he, -⟩ := List.lookup_eq_some_iff.mp hlookup
      have hmem : (c.toNat, ns) ∈ upperSequences := he ▸ List.mem_append_right _ List.mem_cons_self
      exact upperChar_of_mem_targets
        (List.mem_append_right _ (List.mem_flatMap.mpr ⟨_, hmem, hn⟩))
    next hlookup =>
      split at h
      next m hfind =>
        obtain ⟨r, hr, hmove⟩ := List.exists_of_findSome?_eq_some hfind
        have hmem := (CaseRun.move?_eq_some hmove).2
        rw [List.mem_singleton] at h
        rw [h]
        exact upperChar_of_mem_targets
          (List.mem_append_left _ (List.mem_flatMap.mpr ⟨r, hr, hmem⟩))
      next hfind =>
        rw [List.mem_singleton] at h
        rw [h, upperChar, if_neg hc, hlookup, hfind]

end Unicode

theorem uppercase_uppercase (s : String) : uppercase (uppercase s) = uppercase s := by
  have hchars : ∀ cs : List Char, (∀ c ∈ cs, Unicode.upperChar c = [c]) →
      cs.flatMap Unicode.upperChar = cs := by
    intro cs hcs
    induction cs with
    | nil => rfl
    | cons c cs ih =>
      rw [List.flatMap_cons, hcs c List.mem_cons_self,
        ih fun d hd => hcs d (List.mem_cons_of_mem c hd), List.singleton_append]
  rw [uppercase, uppercase, String.toList_ofList]
  congr 1
  refine hchars _ fun d hd => ?_
  obtain ⟨c, -, hc⟩ := List.mem_flatMap.mp hd
  exact Unicode.upperChar_of_mem hc

end PromptWeave
