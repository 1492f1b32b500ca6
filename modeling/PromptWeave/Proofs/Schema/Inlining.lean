import Mathlib.Tactic.SplitIfs
import PromptWeave.Proofs.Schema.Merging
import PromptWeave.Proofs.Schema.Treating

/-! How a schema is inlined, place by place.
Inlining enters the schemas in the arguments of some keywords, replaces each by itself inlined and
then merges what references stand for. What a resolver gives decides all of it. -/
namespace PromptWeave
namespace Schema

/-- The second schema is one that inlining enters directly from the first. -/
abbrev Enters : Json → Json → Prop := EntersBy inliningOf

theorem nested_names {k : String} (hk : inliningOf k = .nested) :
    k = "items" ∨ k = "anyOf" ∨ k = "allOf" ∨ k = "oneOf" ∨ k = "not" ∨
      k = "additionalProperties" := by
  unfold inliningOf at hk
  split_ifs at hk with h1 h2 h3
  simpa using h3

theorem properties_name {k : String} (hk : inliningOf k = .properties) : k = "properties" := by
  unfold inliningOf at hk
  split_ifs at hk with h1 h2
  exact h2

/-- What holds of a schema whenever it holds of all schemas inside holds of every schema. -/
theorem enters_induction {motive : Json → Prop}
    (step : ∀ s, (∀ t, Relation.TransGen Enters s t → motive t) → motive s) (s : Json) :
    motive s := by
  have hlt : ∀ {s t}, Relation.TransGen Enters s t → sizeOf t < sizeOf s := by
    intro s t h
    induction h with
    | single h => exact h.sizeOf_lt
    | tail _ h ih => exact Nat.lt_trans h.sizeOf_lt ih
  induction hn : sizeOf s using Nat.strongRecOn generalizing s with
  | ind n ih =>
    refine step s fun t ht => ih (sizeOf t) ?_ t rfl
    rw [← hn]
    exact hlt ht

def Kept (resolve : Resolver) (fields kept : List (String × Json)) : Prop :=
  List.Forall₂ (fun p q => p.1 = q.1 ∧ Replaced (inlineBy resolve) (inliningOf p.1) p.2 q.2)
    (fields.filter fun p => inliningOf p.1 ≠ .drop) kept

variable {resolve : Resolver}

theorem inlineAllBy_eq_mapM (items : List Json) :
    inlineAllBy resolve items = items.mapM (inlineBy resolve) := by
  induction items with
  | nil =>
    rw [inlineAllBy, List.mapM_nil]
    rfl
  | cons s items ih => rw [inlineAllBy, List.mapM_cons, ih]

theorem inlinePropertiesBy_eq_mapM (props : List (String × Json)) :
    inlinePropertiesBy resolve props =
      props.mapM fun p => do return (p.1, ← inlineBy resolve p.2) := by
  induction props with
  | nil =>
    rw [inlinePropertiesBy, List.mapM_nil]
    rfl
  | cons p props ih =>
    obtain ⟨name, s⟩ := p
    rw [inlinePropertiesBy, List.mapM_cons, ih]
    simp only [bind_assoc, pure_bind]

theorem inlineFieldBy_eq (t : Treatment) (v : Json) :
    inlineFieldBy resolve t v = treated (inlineBy resolve) t v := by
  cases t with
  | properties => cases v <;> simp only [inlineFieldBy, treated, inlinePropertiesBy_eq_mapM]
  | _ => simp only [inlineFieldBy, treated]

theorem inlineFieldsBy_eq_ok {fields kept : List (String × Json)} :
    inlineFieldsBy resolve fields = .ok kept ↔ Kept resolve fields kept := by
  induction fields generalizing kept with
  | nil => simp [inlineFieldsBy, Kept, eq_comm]
  | cons p fields ih =>
    obtain ⟨k, v⟩ := p
    rw [inlineFieldsBy]
    simp only [bind_eq_ok, inlineFieldBy_eq, treated_eq_ok]
    rw [Kept, List.filter_cons]
    by_cases hk : inliningOf k = .drop
    · have hno : ∀ w, ¬ Replaced (inlineBy resolve) (inliningOf k) v w := by
        intro w hw
        rw [hk] at hw
        cases hw
      rw [if_neg (by simp [hk]), ← Kept, ← ih]
      constructor
      · rintro ⟨r, ⟨-, rfl⟩ | ⟨w, hw, -⟩, hr⟩
        · exact hr
        · exact absurd hw (hno w)
      · intro h
        exact ⟨none, Or.inl ⟨hk, rfl⟩, h⟩
    · rw [if_pos (by simpa using hk), List.forall₂_cons_left_iff]
      constructor
      · rintro ⟨r, ⟨hdrop, -⟩ | ⟨w, hw, rfl⟩, hr⟩
        · exact absurd hdrop hk
        · simp only [bind_eq_ok, pure_eq_ok] at hr
          obtain ⟨ws, hws, rfl⟩ := hr
          exact ⟨(k, w), ws, ⟨rfl, hw⟩, ih.mp hws, rfl⟩
      · rintro ⟨⟨_, w⟩, ws, ⟨rfl, hw⟩, hws, rfl⟩
        refine ⟨some w, Or.inr ⟨w, hw, rfl⟩, ?_⟩
        simp only [bind_eq_ok, pure_eq_ok]
        exact ⟨ws, ih.mpr hws, rfl⟩

def Merged (resolve : Resolver) (fields merged : List (String × Json)) : Prop :=
  ∃ kept, Kept resolve fields kept ∧ match Assoc.find? "$ref" fields with
    | some reference => ∃ target, resolve reference = .ok target ∧ merged = mergeMissing kept target
    | none => merged = kept

theorem keys_kept {fields kept : List (String × Json)} (h : Kept resolve fields kept) :
    (kept.map (·.1)).Sublist (fields.map (·.1)) := by
  have hsame : (fields.filter fun p => inliningOf p.1 ≠ .drop).map (·.1) = kept.map (·.1) :=
    keys_of_forall₂ (List.Forall₂.imp (fun _ _ hpq => hpq.1) h)
  rw [← hsame]
  exact List.filter_sublist.map _

/-- What holds of the fields that are kept and of all that is added to such fields holds of merged
fields. -/
theorem Merged.of_kept {P : List (String × Json) → Prop} {fields merged : List (String × Json)}
    (h : Merged resolve fields merged) (hkept : ∀ kept, Kept resolve fields kept → P kept)
    (hadd : ∀ kept added, P kept → P (mergeMissing kept added)) : P merged := by
  obtain ⟨kept, hk, hmerged⟩ := h
  cases href : Assoc.find? "$ref" fields with
  | none =>
    rw [href] at hmerged
    exact hmerged ▸ hkept kept hk
  | some a =>
    rw [href] at hmerged
    obtain ⟨target, -, rfl⟩ := hmerged
    exact hadd kept target (hkept kept hk)

theorem nodup_merged {fields merged : List (String × Json)} (hkeys : (fields.map (·.1)).Nodup)
    (h : Merged resolve fields merged) : (merged.map (·.1)).Nodup :=
  h.of_kept (fun _ hkept => hkeys.sublist (keys_kept hkept)) fun _ added => nodup_mergeMissing added

theorem sorted_merged {fields merged : List (String × Json)} (hkeys : Assoc.Sorted fields)
    (h : Merged resolve fields merged) : Assoc.Sorted merged :=
  h.of_kept (fun _ hkept => List.pairwise_map.mp ((List.pairwise_map.mpr hkeys).sublist
    (keys_kept hkept))) fun _ added => sorted_mergeMissing added

theorem inlineBy_arr {items : List Json} {o : Json} : inlineBy resolve (.arr items) = .ok o ↔
    ∃ os, List.Forall₂ (fun s o => inlineBy resolve s = .ok o) items os ∧ o = .arr os := by
  simp only [inlineBy, bind_eq_ok, pure_eq_ok, inlineAllBy_eq_mapM, mapM_eq_ok]
  exact exists_congr fun os => and_congr_right fun _ => eq_comm

theorem inlineBy_obj {fields : List (String × Json)} {o : Json} :
    inlineBy resolve (.obj fields) = .ok o ↔
      ∃ merged, Merged resolve fields merged ∧ o = .obj (mergeSingle merged) := by
  rw [inlineBy]
  simp only [bind_eq_ok, inlineFieldsBy_eq_ok, Merged]
  cases Assoc.find? "$ref" fields with
  | none =>
    constructor
    · rintro ⟨kept, hkept, ho⟩
      cases ho
      exact ⟨kept, ⟨kept, hkept, rfl⟩, rfl⟩
    · rintro ⟨merged, ⟨kept, hkept, rfl⟩, rfl⟩
      exact ⟨_, hkept, rfl⟩
  | some reference =>
    simp only [bind_eq_ok, pure_eq_ok]
    constructor
    · rintro ⟨kept, hkept, target, htarget, _, rfl, rfl⟩
      exact ⟨_, ⟨kept, hkept, target, htarget, rfl⟩, rfl⟩
    · rintro ⟨_, ⟨kept, hkept, target, htarget, rfl⟩, rfl⟩
      exact ⟨kept, hkept, target, htarget, _, rfl, rfl⟩

theorem inlineBy_eq_arr {s : Json} {os : List Json} : inlineBy resolve s = .ok (.arr os) ↔
    ∃ items, s = .arr items ∧ List.Forall₂ (fun s o => inlineBy resolve s = .ok o) items os := by
  constructor
  · intro h
    cases s with
    | arr items =>
      obtain ⟨os', hos, he⟩ := inlineBy_arr.mp h
      cases he
      exact ⟨items, rfl, hos⟩
    | obj fields =>
      obtain ⟨_, -, he⟩ := inlineBy_obj.mp h
      cases he
    | _ => simp [inlineBy] at h
  · rintro ⟨items, rfl, hos⟩
    exact inlineBy_arr.mpr ⟨os, hos, rfl⟩

theorem inlineBy_eq_obj {s : Json} {out : List (String × Json)} :
    inlineBy resolve s = .ok (.obj out) ↔
      ∃ fields merged, s = .obj fields ∧ Merged resolve fields merged ∧
        out = mergeSingle merged := by
  constructor
  · intro h
    cases s with
    | obj fields =>
      obtain ⟨merged, hmerged, he⟩ := inlineBy_obj.mp h
      cases he
      exact ⟨fields, merged, rfl, hmerged, rfl⟩
    | arr items =>
      obtain ⟨_, -, he⟩ := inlineBy_arr.mp h
      cases he
    | _ => simp [inlineBy] at h
  · rintro ⟨fields, merged, rfl, hmerged, rfl⟩
    exact inlineBy_obj.mpr ⟨merged, hmerged, rfl⟩

theorem inlineBy_single {only : List (String × Json)} {w : Json}
    (h : inlineBy resolve (.arr [.obj only]) = .ok w) : ∃ only', w = .arr [.obj only'] ∧
      inlineBy resolve (.obj only) = .ok (.obj only') := by
  obtain ⟨os, hos, rfl⟩ := inlineBy_arr.mp h
  obtain ⟨o, _, ho, hnil, rfl⟩ := List.forall₂_cons_left_iff.mp hos
  cases hnil
  obtain ⟨_, -, rfl⟩ := inlineBy_obj.mp ho
  exact ⟨_, rfl, ho⟩

theorem inlineBy_eq_single {v : Json} {only' : List (String × Json)} :
    inlineBy resolve v = .ok (.arr [.obj only']) ↔
      ∃ only, v = .arr [.obj only] ∧ inlineBy resolve (.obj only) = .ok (.obj only') := by
  rw [inlineBy_eq_arr]
  constructor
  · rintro ⟨items, rfl, hos⟩
    obtain ⟨s, _, hs, hnil, rfl⟩ := List.forall₂_cons_right_iff.mp hos
    cases hnil
    obtain ⟨only, _, rfl, -, -⟩ := inlineBy_eq_obj.mp hs
    exact ⟨only, rfl, hs⟩
  · rintro ⟨only, rfl, h⟩
    exact ⟨_, rfl, .cons h .nil⟩

end Schema
end PromptWeave
