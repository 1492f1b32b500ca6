import Mathlib.Data.List.Nodup
import Mathlib.Tactic.SplitIfs
import PromptWeave.Dict

/-! Looking up in key-value lists.
Putting a new key into a list adds one entry and leaves the others as they are, and in a list in
order each entry is found by its key. -/
namespace PromptWeave
namespace Assoc

variable {α β : Type}

@[simp] theorem find?_nil (key : String) : find? key ([] : List (String × α)) = none := rfl

theorem find?_cons (key k : String) (v : α) (d : List (String × α)) :
    find? key ((k, v) :: d) = if k = key then some v else find? key d := rfl

theorem mem_of_find? {key : String} {v : α} {d : List (String × α)} (h : find? key d = some v) :
    (key, v) ∈ d := by
  induction d with
  | nil => simp at h
  | cons p d ih =>
    rw [find?_cons] at h
    split_ifs at h with hk
    · cases h
      exact hk ▸ List.mem_cons_self
    · exact List.mem_cons_of_mem _ (ih h)

theorem find?_eq_none {key : String} {d : List (String × α)} :
    find? key d = none ↔ ∀ v, (key, v) ∉ d := by
  induction d with
  | nil => simp
  | cons p d ih =>
    obtain ⟨k, w⟩ := p
    rw [find?_cons]
    by_cases hk : k = key
    · subst hk
      simp only [if_true, reduceCtorEq, false_iff, not_forall, not_not]
      exact ⟨w, List.mem_cons_self⟩
    · simp [hk, ih, Ne.symm hk]

theorem isSome_find? {key : String} {d : List (String × α)} :
    (find? key d).isSome ↔ ∃ v, (key, v) ∈ d := by
  rw [Option.isSome_iff_ne_none, ne_eq, find?_eq_none]
  simp

theorem find?_of_mem {key : String} {v : α} {d : List (String × α)} (hd : (d.map (·.1)).Nodup)
    (h : (key, v) ∈ d) : find? key d = some v := by
  induction d with
  | nil => simp at h
  | cons p d ih =>
    obtain ⟨k, w⟩ := p
    rw [List.map_cons, List.nodup_cons] at hd
    rw [find?_cons]
    rcases List.mem_cons.mp h with he | h
    · cases he
      simp
    · have hk : k ≠ key := by
        rintro rfl
        exact hd.1 (List.mem_map.mpr ⟨_, h, rfl⟩)
      rw [if_neg hk, ih hd.2 h]

theorem find?_of_unique {key : String} {v : α} {d : List (String × α)} (h : (key, v) ∈ d)
    (hunique : ∀ w, (key, w) ∈ d → w = v) : find? key d = some v := by
  cases hfind : find? key d with
  | none => exact absurd h (find?_eq_none.mp hfind v)
  | some w => rw [hunique w (mem_of_find? hfind)]

theorem find?_append (key : String) (d e : List (String × α)) :
    find? key (d ++ e) = (find? key d).or (find? key e) := by
  induction d with
  | nil => simp
  | cons p d ih =>
    obtain ⟨k, v⟩ := p
    rw [List.cons_append, find?_cons, find?_cons, ih]
    by_cases hk : k = key <;> simp [hk]

theorem Sorted.nodup {d : List (String × α)} (h : Sorted d) : (d.map (·.1)).Nodup := by
  rw [List.Nodup, List.pairwise_map]
  refine h.imp ?_
  intro p q hlt he
  rw [he] at hlt
  exact String.lt_irrefl q.1 hlt

theorem sorted_erase (key : String) {d : List (String × α)} (h : Sorted d) : Sorted (erase key d) :=
  List.Pairwise.filter _ h

theorem find?_filter (keep : String → Bool) (key : String) (d : List (String × α)) :
    find? key (d.filter fun p => keep p.1) = if keep key then find? key d else none := by
  induction d with
  | nil => simp
  | cons p d ih =>
    obtain ⟨k, w⟩ := p
    rw [List.filter_cons, find?_cons]
    by_cases hk : k = key
    · subst hk
      by_cases hkeep : keep k = true
      · simp [hkeep, find?_cons]
      · simpa [hkeep] using ih
    · by_cases hkeep : keep k = true
      · simp [hkeep, find?_cons, hk, ih]
      · simp [hkeep, hk, ih]

theorem find?_erase (key other : String) (d : List (String × α)) :
    find? other (erase key d) = if other = key then none else find? other d := by
  have herase := find?_filter (fun k => decide (k ≠ key)) other d
  by_cases ho : other = key <;> simpa [erase, ho] using herase

theorem find?_insert (key other : String) (v : α) (d : List (String × α)) :
    find? other (insert key v d) = if key = other then some v else find? other d := by
  induction d with
  | nil => simp [insert, find?_cons]
  | cons p d ih =>
    obtain ⟨k, w⟩ := p
    rw [insert]
    split
    next =>
      by_cases ho : key = other <;> simp [find?_cons, ho]
    next =>
      split
      next heq =>
        subst heq
        by_cases ho : key = other <;> simp [find?_cons, ho]
      next hne =>
        rw [find?_cons, find?_cons, ih]
        by_cases ho : key = other
        · subst ho
          simp [Ne.symm hne]
        · simp [ho]

theorem find?_foldl_insert (key : String) (ps d : List (String × α)) :
    find? key (ps.foldl (fun d p => insert p.1 p.2 d) d) =
      (find? key ps.reverse).or (find? key d) := by
  induction ps generalizing d with
  | nil => simp
  | cons p ps ih =>
    obtain ⟨k, v⟩ := p
    rw [List.foldl_cons, ih, List.reverse_cons, find?_append, Option.or_assoc, find?_insert,
      find?_cons, find?_nil]
    by_cases hk : k = key <;> simp [hk]

theorem find?_ofList (key : String) (ps : List (String × α)) :
    find? key (ofList ps) = find? key ps.reverse := by
  simpa [ofList] using find?_foldl_insert key ps []

theorem mem_of_mem_insert {key : String} {v : α} {d : List (String × α)} {p : String × α}
    (h : p ∈ insert key v d) : p = (key, v) ∨ p ∈ d := by
  induction d with
  | nil => simpa [insert] using h
  | cons q d ih =>
    rw [insert] at h
    split_ifs at h with hlt heq
    · exact List.mem_cons.mp h
    · exact (List.mem_cons.mp h).imp_right (List.mem_cons_of_mem q)
    · rcases List.mem_cons.mp h with rfl | h
      · exact Or.inr List.mem_cons_self
      · exact (ih h).imp_right (List.mem_cons_of_mem q)

/-- Lists that agree in their keys and place by place in what belongs to each key do so in what is
found. -/
theorem rel_find? {β : Type} {R : String → α → β → Prop} {d : List (String × α)}
    {e : List (String × β)} (h : List.Forall₂ (fun p q => p.1 = q.1 ∧ R p.1 p.2 q.2) d e)
    (key : String) : Option.Rel (R key) (find? key d) (find? key e) := by
  induction h with
  | nil => exact .none
  | @cons p q d e hpq _ ih =>
    obtain ⟨k, v⟩ := p
    obtain ⟨_, w⟩ := q
    obtain ⟨rfl, hvw⟩ := hpq
    rw [find?_cons, find?_cons]
    by_cases hk : k = key
    · subst hk
      simpa using Option.Rel.some hvw
    · simpa [hk] using ih

theorem insert_perm {key : String} {d : List (String × α)} (h : find? key d = none) (v : α) :
    (insert key v d).Perm ((key, v) :: d) := by
  induction d with
  | nil => exact List.Perm.refl _
  | cons p d ih =>
    obtain ⟨k, w⟩ := p
    rw [find?_cons] at h
    split_ifs at h with hk
    rw [insert]
    split_ifs with hlt heq
    · exact List.Perm.refl _
    · exact absurd heq.symm hk
    · exact ((ih h).cons (k, w)).trans (List.Perm.swap (key, v) (k, w) d)

theorem find?_perm {d e : List (String × α)} (hd : (d.map (·.1)).Nodup) (h : d.Perm e)
    (key : String) : find? key d = find? key e := by
  cases hfind : find? key e with
  | none => exact find?_eq_none.mpr fun v hv => find?_eq_none.mp hfind v (h.mem_iff.mp hv)
  | some v => exact find?_of_mem hd (h.mem_iff.mpr (mem_of_find? hfind))

theorem eq_of_find? {d e : List (String × α)} (hd : Sorted d) (he : Sorted e)
    (h : ∀ key, find? key d = find? key e) : d = e := by
  have hmem : ∀ p, p ∈ d ↔ p ∈ e := by
    rintro ⟨key, v⟩
    have hdkey : (key, v) ∈ d ↔ find? key d = some v := ⟨find?_of_mem hd.nodup, mem_of_find?⟩
    have hekey : (key, v) ∈ e ↔ find? key e = some v := ⟨find?_of_mem he.nodup, mem_of_find?⟩
    rw [hdkey, hekey, h key]
  have hperm : d.Perm e :=
    (List.perm_ext_iff_of_nodup hd.nodup.of_map he.nodup.of_map).mpr hmem
  refine hperm.eq_of_pairwise ?_ hd he
  intro p q _ _ hpq hqp
  exact absurd (String.lt_trans hpq hqp) (String.lt_irrefl p.1)

end Assoc

namespace Dict

variable {α : Type}

theorem entries_foldl_insert (ps : List (String × α)) (d : Dict α) :
    (ps.foldl (fun d p => d.insert p.1 p.2) d).entries =
      ps.foldl (fun d p => Assoc.insert p.1 p.2 d) d.entries := by
  induction ps generalizing d with
  | nil => rfl
  | cons p ps ih => exact ih (d.insert p.1 p.2)

theorem entries_ofList (ps : List (String × α)) : (ofList ps).entries = Assoc.ofList ps :=
  entries_foldl_insert ps empty

theorem find?_ofList (key : String) (ps : List (String × α)) :
    (ofList ps).find? key = Assoc.find? key ps.reverse := by
  rw [find?, entries_ofList, Assoc.find?_ofList]

theorem mem_of_find?_ofList {ps : List (String × α)} {key : String} {v : α}
    (h : (ofList ps).find? key = some v) : (key, v) ∈ ps := by
  rw [find?_ofList] at h
  exact List.mem_reverse.mp (Assoc.mem_of_find? h)

theorem find?_onto (top below : Dict α) (key : String) :
    (top.onto below).find? key = (top.find? key).or (below.find? key) := by
  have hentries : Assoc.find? key top.entries.reverse = Assoc.find? key top.entries :=
    (Assoc.find?_perm top.sorted.nodup (List.reverse_perm top.entries).symm key).symm
  rw [find?, onto, entries_foldl_insert, Assoc.find?_foldl_insert, hentries]
  rfl

theorem ext_find? {d e : Dict α} (h : ∀ key, d.find? key = e.find? key) : d = e :=
  ext (Assoc.eq_of_find? d.sorted e.sorted h)

theorem onto_assoc (a b c : Dict α) : (a.onto b).onto c = a.onto (b.onto c) := by
  apply ext_find?
  intro key
  simp only [find?_onto, Option.or_assoc]

end Dict
end PromptWeave
