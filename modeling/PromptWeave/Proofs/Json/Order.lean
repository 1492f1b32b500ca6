import PromptWeave.Proofs.Json.Distinct

/-! Objects with their keys in order.
Sorting the keys of a value that was read changes nothing, and all objects inside are sorted then. -/
namespace PromptWeave
namespace Json

theorem insert_of_sorted {d : List (String × Json)} {p : String × Json}
    (h : Assoc.Sorted (d ++ [p])) : Assoc.insert p.1 p.2 d = d ++ [p] := by
  induction d with
  | nil => rfl
  | cons q d ih =>
    obtain ⟨hq, hd⟩ := List.pairwise_cons.mp h
    have hlt : q.1 < p.1 := hq p (List.mem_append_right d List.mem_cons_self)
    have hne : ¬ p.1 = q.1 := fun he => String.lt_irrefl _ (he ▸ hlt)
    have hnlt : ¬ p.1 < q.1 := fun hgt => String.lt_irrefl _ (String.lt_trans hlt hgt)
    rw [Assoc.insert, if_neg hnlt, if_neg hne, ih hd, List.cons_append]

theorem ofList_of_sorted {ps : List (String × Json)} (h : Assoc.Sorted ps) :
    Assoc.ofList ps = ps := by
  have hfold : ∀ (ps d : List (String × Json)), Assoc.Sorted (d ++ ps) →
      ps.foldl (fun d p => Assoc.insert p.1 p.2 d) d = d ++ ps := by
    intro ps
    induction ps with
    | nil => simp
    | cons p ps ih =>
      intro d hd
      have hd' : Assoc.Sorted (d ++ [p] ++ ps) := by simpa using hd
      rw [List.foldl_cons, insert_of_sorted (List.pairwise_append.mp hd').1, ih _ hd',
        List.append_assoc, List.singleton_append]
  exact hfold ps [] h

theorem sortItems_eq (items : List Json) : sortItems items = items.map sortKeys := by
  induction items with
  | nil => rfl
  | cons v vs ih => rw [sortItems, ih, List.map_cons]

theorem sortFields_eq (fields : List (String × Json)) :
    sortFields fields = fields.map fun p => (p.1, sortKeys p.2) := by
  induction fields with
  | nil => rfl
  | cons p fields ih =>
    obtain ⟨k, v⟩ := p
    rw [sortFields, ih, List.map_cons]

theorem sortKeys_arr_eq_self {items : List Json} :
    sortKeys (.arr items) = .arr items ↔ ∀ v ∈ items, sortKeys v = v := by
  rw [sortKeys, sortItems_eq, Json.arr.injEq]
  conv_lhs => rw [← List.map_id items, List.map_map]
  exact List.map_inj_left

theorem sortKeys_obj_eq_self {fields : List (String × Json)} :
    sortKeys (.obj fields) = .obj fields ↔
      Assoc.Sorted fields ∧ ∀ p ∈ fields, sortKeys p.2 = p.2 := by
  rw [sortKeys, sortFields_eq, Json.obj.injEq]
  constructor
  · intro h
    have hsorted : Assoc.Sorted fields := h ▸ sorted_ofList _
    refine ⟨hsorted, fun p hp => ?_⟩
    rw [← h] at hp
    obtain ⟨q, hq, rfl⟩ := List.mem_map.mp (mem_ofList hp)
    rw [h] at hp
    have hfirst := Assoc.find?_of_mem (Assoc.Sorted.nodup hsorted) hq
    rw [Assoc.find?_of_mem (Assoc.Sorted.nodup hsorted) hp] at hfirst
    have hvalue : sortKeys q.2 = q.2 := Option.some.inj hfirst
    rw [hvalue, hvalue]
  · rintro ⟨hsorted, hall⟩
    have hmap : (fields.map fun p => (p.1, sortKeys p.2)) = fields.map id :=
      List.map_inj_left.mpr fun p hp => by rw [hall p hp, id]
    rw [hmap, List.map_id, ofList_of_sorted hsorted]

theorem sorted_of_inside {v : Json} {fields : List (String × Json)} (hv : sortKeys v = v)
    (h : Inside v (.obj fields)) : Assoc.Sorted fields := by
  have hsame : ∀ w, Inside v w → sortKeys w = w := by
    intro w hw
    induction hw with
    | here => exact hv
    | item _ hw ih => exact sortKeys_arr_eq_self.mp ih _ hw
    | field _ hw ih => exact (sortKeys_obj_eq_self.mp ih).2 _ hw
  exact (sortKeys_obj_eq_self.mp (hsame _ h)).1

theorem builtUp_sortKeys : BuiltUp fun v => sortKeys v = v where
  leaf v harr hobj := by cases v <;> simp_all [sortKeys]
  arr _ := sortKeys_arr_eq_self.mpr
  obj ps hps := sortKeys_obj_eq_self.mpr ⟨sorted_ofList ps, fun p hp => hps p (mem_ofList hp)⟩

theorem sortKeys_value {r : Raw} {v : Json} (h : r.value = .ok v) : sortKeys v = v :=
  builtUp_sortKeys.value r v h

end Json
end PromptWeave
