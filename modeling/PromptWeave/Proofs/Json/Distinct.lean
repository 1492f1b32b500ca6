import Mathlib.Data.List.Nodup
import PromptWeave.Json.Raw
import PromptWeave.Proofs.Assoc
import PromptWeave.Proofs.Lists

/-! Objects with distinct keys.
No object that was read has a key twice. -/
namespace PromptWeave
namespace Json

mutual
def distinctKeys : Json → Bool
  | .arr items => distinctItems items
  | .obj fields => decide (fields.map (·.1)).Nodup && distinctFields fields
  | _ => true
def distinctItems : List Json → Bool
  | [] => true
  | v :: vs => distinctKeys v && distinctItems vs
def distinctFields : List (String × Json) → Bool
  | [] => true
  | (_, v) :: rest => distinctKeys v && distinctFields rest
end

theorem distinctKeys_arr {items : List Json} :
    distinctKeys (.arr items) = true ↔ ∀ v ∈ items, distinctKeys v = true := by
  rw [distinctKeys]
  induction items with
  | nil => simp [distinctItems]
  | cons v vs ih => simp [distinctItems, ih]

theorem distinctKeys_obj {fields : List (String × Json)} :
    distinctKeys (.obj fields) = true ↔
      (fields.map (·.1)).Nodup ∧ ∀ p ∈ fields, distinctKeys p.2 = true := by
  have hfields : distinctFields fields = true ↔ ∀ p ∈ fields, distinctKeys p.2 = true := by
    induction fields with
    | nil => simp [distinctFields]
    | cons p fields ih =>
      obtain ⟨k, v⟩ := p
      rw [distinctFields, Bool.and_eq_true, ih, List.forall_mem_cons]
  rw [distinctKeys, Bool.and_eq_true, decide_eq_true_iff, hfields]

inductive Inside (v : Json) : Json → Prop
  | here : Inside v v
  | item {items : List Json} {w : Json} (h : Inside v (.arr items)) (hw : w ∈ items) : Inside v w
  | field {fields : List (String × Json)} {k : String} {w : Json} (h : Inside v (.obj fields))
      (hw : (k, w) ∈ fields) : Inside v w

theorem sorted_ofList (ps : List (String × Json)) : Assoc.Sorted (Assoc.ofList ps) := by
  have hfold : ∀ (ps d : List (String × Json)), Assoc.Sorted d →
      Assoc.Sorted (ps.foldl (fun d p => Assoc.insert p.1 p.2 d) d) := by
    intro ps
    induction ps with
    | nil => exact fun d h => h
    | cons p ps ih => exact fun d h => ih _ (Assoc.sorted_insert p.1 p.2 h)
  exact hfold ps [] List.Pairwise.nil

theorem mem_ofList {ps : List (String × Json)} {p : String × Json} (h : p ∈ Assoc.ofList ps) :
    p ∈ ps := by
  have hfold : ∀ (ps d : List (String × Json)),
      p ∈ ps.foldl (fun d p => Assoc.insert p.1 p.2 d) d → p ∈ ps ∨ p ∈ d := by
    intro ps
    induction ps with
    | nil => exact fun d h => Or.inr h
    | cons q ps ih =>
      intro d h
      rcases ih _ h with hmem | hmem
      · exact Or.inl (List.mem_cons_of_mem q hmem)
      · rcases Assoc.mem_of_mem_insert hmem with rfl | hmem
        · exact Or.inl List.mem_cons_self
        · exact Or.inr hmem
  rcases hfold ps [] h with hmem | hmem
  · exact hmem
  · simp at hmem

/-- A property that a value has when it is read from values that have it. -/
structure BuiltUp (P : Json → Prop) : Prop where
  leaf : ∀ v, (∀ items, v ≠ .arr items) → (∀ fields, v ≠ .obj fields) → P v
  arr : ∀ items, (∀ v ∈ items, P v) → P (.arr items)
  obj : ∀ ps, (∀ p ∈ ps, P p.2) → P (.obj (Assoc.ofList ps))

variable {P : Json → Prop}

mutual
theorem BuiltUp.value (hP : BuiltUp P) : ∀ (r : Raw) (v : Json), r.value = .ok v → P v
  | .null, v, h | .bool _, v, h | .num _, v, h | .str _, v, h => by
    cases h
    exact hP.leaf _ (by simp) (by simp)
  | .arr items, v, h => by
    simp only [Raw.value, bind_eq_ok, pure_eq_ok] at h
    obtain ⟨vs, hvs, rfl⟩ := h
    exact hP.arr vs (hP.valueItems items vs hvs)
  | .obj fields, v, h => by
    simp only [Raw.value, bind_eq_ok, pure_eq_ok] at h
    obtain ⟨ps, hps, rfl⟩ := h
    exact hP.obj ps (hP.valueFields fields ps hps)
  | .faulty _, v, h => by cases h
theorem BuiltUp.valueItems (hP : BuiltUp P) : ∀ (rs : List Raw) (vs : List Json),
    Raw.valueItems rs = .ok vs → ∀ v ∈ vs, P v
  | [], vs, h => by
    cases h
    simp
  | r :: rs, vs, h => by
    simp only [Raw.valueItems, bind_eq_ok, pure_eq_ok] at h
    obtain ⟨v, hv, vs, hvs, rfl⟩ := h
    exact List.forall_mem_cons.mpr ⟨hP.value r v hv, hP.valueItems rs vs hvs⟩
theorem BuiltUp.valueFields (hP : BuiltUp P) : ∀ (fields : List (Option String × Raw))
    (ps : List (String × Json)), Raw.valueFields fields = .ok ps → ∀ p ∈ ps, P p.2
  | [], ps, h => by
    cases h
    simp
  | (none, _) :: _, ps, h => by cases h
  | (some k, r) :: rest, ps, h => by
    simp only [Raw.valueFields, bind_eq_ok, pure_eq_ok] at h
    obtain ⟨v, hv, ps, hps, rfl⟩ := h
    exact List.forall_mem_cons.mpr ⟨hP.value r v hv, hP.valueFields rest ps hps⟩
end

theorem builtUp_distinctKeys : BuiltUp fun v => v.distinctKeys = true where
  leaf v harr hobj := by cases v <;> simp_all [distinctKeys]
  arr _ := distinctKeys_arr.mpr
  obj ps hps := distinctKeys_obj.mpr
    ⟨Assoc.Sorted.nodup (sorted_ofList ps), fun p hp => hps p (mem_ofList hp)⟩

/-- Whatever is read has distinct keys. -/
theorem distinctKeys_value {r : Raw} {v : Json} (h : r.value = .ok v) : v.distinctKeys = true :=
  builtUp_distinctKeys.value r v h

end Json
end PromptWeave
