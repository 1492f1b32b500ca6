import PromptWeave.Proofs.Json.Order
import PromptWeave.Proofs.Json.Records

/-! The same JSON with its keys in another order.
Two values are alike when sorting their keys makes them the same, and the trees of a value are those
of the values that are alike. What stands at a key or at a place of a tree is a tree of what stands
there in the value, so a tree can be taken apart as the value is. -/
namespace PromptWeave
namespace Json

/-! ### Values as trees -/

theorem ofItems_eq (vs : List Json) : Raw.ofItems vs = vs.map Raw.ofJson := by
  induction vs with
  | nil => rfl
  | cons v vs ih => rw [Raw.ofItems, ih, List.map_cons]

theorem ofFields_eq (fields : List (String × Json)) :
    Raw.ofFields fields = fields.map fun p => (some p.1, Raw.ofJson p.2) := by
  induction fields with
  | nil => rfl
  | cons p fields ih =>
    obtain ⟨k, v⟩ := p
    rw [Raw.ofFields, ih, List.map_cons]

mutual
theorem value_ofJson : ∀ v : Json, (Raw.ofJson v).value = .ok v.sortKeys
  | .null | .bool _ | .num _ | .str _ => rfl
  | .arr items => bind_eq_ok.mpr ⟨_, valueItems_ofItems items, rfl⟩
  | .obj fields => bind_eq_ok.mpr ⟨_, valueFields_ofFields fields, rfl⟩
theorem valueItems_ofItems : ∀ vs : List Json,
    Raw.valueItems (Raw.ofItems vs) = .ok (sortItems vs)
  | [] => rfl
  | v :: vs => bind_eq_ok.mpr ⟨_, value_ofJson v, bind_eq_ok.mpr ⟨_, valueItems_ofItems vs, rfl⟩⟩
theorem valueFields_ofFields : ∀ fields : List (String × Json),
    Raw.valueFields (Raw.ofFields fields) = .ok (sortFields fields)
  | [] => rfl
  | (_, v) :: rest =>
    bind_eq_ok.mpr ⟨_, value_ofJson v, bind_eq_ok.mpr ⟨_, valueFields_ofFields rest, rfl⟩⟩
end

mutual
theorem sound_ofJson : ∀ v : Json, (Raw.ofJson v).sound = true
  | .null | .bool _ | .num _ | .str _ => rfl
  | .arr items => soundItems_ofItems items
  | .obj fields => soundFields_ofFields fields
theorem soundItems_ofItems : ∀ vs : List Json, Raw.soundItems (Raw.ofItems vs) = true
  | [] => rfl
  | v :: vs => by
    rw [Raw.ofItems, Raw.soundItems, sound_ofJson v, soundItems_ofItems vs, Bool.and_self]
theorem soundFields_ofFields : ∀ fields : List (String × Json),
    Raw.soundFields (Raw.ofFields fields) = true
  | [] => rfl
  | (_, v) :: rest => by
    rw [Raw.ofFields, Raw.soundFields, sound_ofJson v, soundFields_ofFields rest]
    rfl
end

theorem distinctKeys_sortKeys (v : Json) : v.sortKeys.distinctKeys = true :=
  distinctKeys_value (value_ofJson v)

theorem sortKeys_sortKeys (v : Json) : v.sortKeys.sortKeys = v.sortKeys :=
  sortKeys_value (value_ofJson v)

/-- With distinct keys a tree gives for a key what the object has there. -/
theorem valuesOf_ofFields {fields : List (String × Json)} (h : (fields.map (·.1)).Nodup)
    (name : String) :
    valuesOf name (Raw.ofFields fields) = ((Assoc.find? name fields).map Raw.ofJson).toList := by
  induction fields with
  | nil => rfl
  | cons p fields ih =>
    obtain ⟨k, v⟩ := p
    rw [List.map_cons, List.nodup_cons] at h
    rw [Raw.ofFields, valuesOf_cons, ih h.2, Assoc.find?_cons]
    by_cases hk : k = name
    · subst hk
      have hnone : Assoc.find? k fields = none :=
        Assoc.find?_eq_none.mpr fun w hw => h.1 (List.mem_map.mpr ⟨_, hw, rfl⟩)
      simp [hnone]
    · simp [hk]

/-! ### Depth -/

theorem depth_pos (r : Raw) : 0 < r.depth := by cases r <;> simp [Raw.depth]

theorem depth_item {items : List Raw} {r : Raw} (h : r ∈ items) :
    r.depth < (Raw.arr items).depth := by
  rw [Raw.depth, Nat.lt_succ_iff]
  induction items with
  | nil => cases h
  | cons s items ih =>
    rw [Raw.depthItems]
    rcases List.mem_cons.mp h with rfl | h
    · exact Nat.le_max_left _ _
    · exact Nat.le_trans (ih h) (Nat.le_max_right _ _)

theorem depth_field {fields : List (Option String × Raw)} {name : String} {r : Raw}
    (h : r ∈ valuesOf name fields) : r.depth < (Raw.obj fields).depth := by
  rw [Raw.depth, Nat.lt_succ_iff]
  induction fields with
  | nil => cases h
  | cons f fields ih =>
    obtain ⟨k, s⟩ := f
    rw [valuesOf_cons] at h
    rw [Raw.depthFields]
    split_ifs at h
    · rcases List.mem_cons.mp h with rfl | h
      · exact Nat.le_max_left _ _
      · exact Nat.le_trans (ih h) (Nat.le_max_right _ _)
    · exact Nat.le_trans (ih h) (Nat.le_max_right _ _)

/-! ### The same content -/

/-- The first value is the second with the keys of each object in some order, none of them twice. -/
structure Alike (v w : Json) : Prop where
  distinct : v.distinctKeys = true
  content : v.sortKeys = w.sortKeys

theorem alike_sortKeys (v : Json) : Alike v.sortKeys v :=
  ⟨distinctKeys_sortKeys v, sortKeys_sortKeys v⟩

theorem find?_sortFields (key : String) (fields : List (String × Json)) :
    Assoc.find? key (sortFields fields) = (Assoc.find? key fields).map sortKeys := by
  induction fields with
  | nil => rfl
  | cons p fields ih =>
    obtain ⟨k, v⟩ := p
    rw [sortFields, Assoc.find?_cons, Assoc.find?_cons, ih]
    split_ifs <;> rfl

theorem find?_ofList_sortFields {fields : List (String × Json)} (h : (fields.map (·.1)).Nodup)
    (key : String) : Assoc.find? key (Assoc.ofList (sortFields fields)) =
      (Assoc.find? key fields).map sortKeys := by
  have hkeys : ((sortFields fields).map (·.1)).Nodup := by
    rw [sortFields_eq, List.map_map]
    exact h
  rw [Assoc.find?_ofList, ← Assoc.find?_perm hkeys (List.reverse_perm _).symm, find?_sortFields]

namespace Alike

variable {v w : Json}

theorem eq_of_plain (h : Alike v w) (harr : ∀ items, w ≠ .arr items)
    (hobj : ∀ fields, w ≠ .obj fields) : v = w := by
  have hcontent := h.content
  cases w with
  | arr items => exact absurd rfl (harr items)
  | obj fields => exact absurd rfl (hobj fields)
  | null | bool | num | str => cases v <;> simp_all [sortKeys]

theorem arr {ws : List Json} (h : Alike v (.arr ws)) :
    ∃ vs, v = .arr vs ∧ List.Forall₂ Alike vs ws := by
  obtain ⟨hdistinct, hcontent⟩ := h
  cases v with
  | null | bool | num | str | obj => simp [sortKeys] at hcontent
  | arr vs =>
    rw [sortKeys, sortKeys, Json.arr.injEq, sortItems_eq, sortItems_eq, ← List.forall₂_eq_eq_eq,
      List.forall₂_map_left_iff, List.forall₂_map_right_iff] at hcontent
    exact ⟨vs, rfl, forall₂_imp_mem hcontent fun v hv w hvw =>
      ⟨distinctKeys_arr.mp hdistinct v hv, hvw⟩⟩

theorem obj {ws : List (String × Json)} (h : Alike v (.obj ws)) (hws : (ws.map (·.1)).Nodup) :
    ∃ vs, v = .obj vs ∧ (vs.map (·.1)).Nodup ∧
      ∀ key, Option.Rel Alike (Assoc.find? key vs) (Assoc.find? key ws) := by
  obtain ⟨hdistinct, hcontent⟩ := h
  cases v with
  | null | bool | num | str | arr => simp [sortKeys] at hcontent
  | obj vs =>
    obtain ⟨hvs, hinner⟩ := distinctKeys_obj.mp hdistinct
    rw [sortKeys, sortKeys, Json.obj.injEq] at hcontent
    refine ⟨vs, rfl, hvs, fun key => ?_⟩
    have hfind := find?_ofList_sortFields hvs key
    rw [hcontent, find?_ofList_sortFields hws] at hfind
    cases hv : Assoc.find? key vs with
    | none =>
      cases hw : Assoc.find? key ws with
      | none => exact .none
      | some w => simp [hv, hw] at hfind
    | some v =>
      cases hw : Assoc.find? key ws with
      | none => simp [hv, hw] at hfind
      | some w =>
        rw [hv, hw, Option.map_some, Option.map_some, Option.some_inj] at hfind
        exact .some ⟨hinner _ (Assoc.mem_of_find? hv), hfind.symm⟩

theorem single {key : String} {w : Json} (h : Alike v (.obj [(key, w)])) :
    ∃ u, v = .obj [(key, u)] ∧ Alike u w := by
  obtain ⟨vs, rfl, hvs, hfind⟩ := h.obj (List.nodup_singleton key)
  have hkey (k : String) (u : Json) (hmem : (k, u) ∈ vs) : k = key := by
    have hrel := hfind k
    rw [Assoc.find?_of_mem hvs hmem, Assoc.find?_cons] at hrel
    by_contra hk
    rw [if_neg (Ne.symm hk)] at hrel
    cases hrel
  have hfound := hfind key
  rw [Assoc.find?_cons, if_pos rfl] at hfound
  cases vs with
  | nil => cases hfound
  | cons p vs =>
    obtain ⟨k, u⟩ := p
    obtain rfl := hkey k u List.mem_cons_self
    rw [Assoc.find?_cons, if_pos rfl] at hfound
    cases hfound with
    | some hu =>
      cases vs with
      | nil => exact ⟨u, rfl, hu⟩
      | cons q vs =>
        obtain rfl := hkey q.1 q.2 (List.mem_cons_of_mem _ List.mem_cons_self)
        exact absurd hvs (by simp)

end Alike

/-! ### Trees of a value -/

def Spells (w : Json) (r : Raw) : Prop := ∃ v, Alike v w ∧ r = .ofJson v

theorem spells_sortKeys (w : Json) : Spells w (.ofJson w.sortKeys) := ⟨_, alike_sortKeys w, rfl⟩

namespace Spells

variable {w : Json} {r : Raw}

theorem value (h : Spells w r) : r.value = .ok w.sortKeys := by
  obtain ⟨v, hv, rfl⟩ := h
  rw [value_ofJson, hv.content]

theorem sound (h : Spells w r) : r.sound = true := by
  obtain ⟨v, -, rfl⟩ := h
  exact sound_ofJson v

theorem eq_of_plain (h : Spells w r) (harr : ∀ items, w ≠ .arr items)
    (hobj : ∀ fields, w ≠ .obj fields) : r = .ofJson w := by
  obtain ⟨v, hv, rfl⟩ := h
  rw [hv.eq_of_plain harr hobj]

theorem arr {ws : List Json} (h : Spells (.arr ws) r) : ∃ items, r = .arr items ∧
    List.Forall₂ (fun w s => Spells w s ∧ s.depth < r.depth) ws items := by
  obtain ⟨v, hv, rfl⟩ := h
  obtain ⟨vs, rfl, hvs⟩ := hv.arr
  have hitems : List.Forall₂ (fun s w => Spells w s) (Raw.ofItems vs) ws := by
    rw [ofItems_eq, List.forall₂_map_left_iff]
    exact hvs.imp fun v _ hv => ⟨v, hv, rfl⟩
  refine ⟨Raw.ofItems vs, rfl, List.Forall₂.flip ?_⟩
  exact forall₂_imp_mem hitems fun s hs w hw => ⟨hw, depth_item hs⟩

theorem single {key : String} (h : Spells (.obj [(key, w)]) r) :
    ∃ s, r = .obj [(some key, s)] ∧ Spells w s ∧ s.depth < r.depth := by
  obtain ⟨v, hv, rfl⟩ := h
  obtain ⟨u, rfl, hu⟩ := hv.single
  have hdepth : (Raw.ofJson u).depth < (Raw.obj [(some key, .ofJson u)]).depth :=
    depth_field (show Raw.ofJson u ∈ valuesOf key _ by simp [valuesOf])
  exact ⟨.ofJson u, rfl, ⟨u, hu, rfl⟩, hdepth⟩

theorem ne_null (h : Spells w r) (hw : w ≠ .null) : r ≠ .null := by
  obtain ⟨v, hv, rfl⟩ := h
  have hcontent := hv.content
  cases v <;> cases w <;> simp_all [sortKeys, Raw.ofJson]

end Spells

/-- The fields of a tree of an object: those that the object has, in some order. -/
structure Presents (ws : List (String × Json)) (fields : List (Option String × Raw)) : Prop where
  legible : ∀ f ∈ fields, ∃ p ∈ ws, f.1 = some p.1
  found : ∀ name, Option.Rel Spells (Assoc.find? name ws) (valuesOf name fields).head?
  once : ∀ name, (valuesOf name fields).length ≤ 1

theorem Spells.obj {ws : List (String × Json)} {r : Raw} (h : Spells (.obj ws) r)
    (hws : (ws.map (·.1)).Nodup) : ∃ fields, r = .obj fields ∧ Presents ws fields := by
  obtain ⟨v, hv, rfl⟩ := h
  obtain ⟨vs, rfl, hvs, hfind⟩ := hv.obj hws
  refine ⟨Raw.ofFields vs, rfl, ?_, fun name => ?_, fun name => ?_⟩
  · rw [ofFields_eq]
    rintro _ hf
    obtain ⟨⟨k, u⟩, hp, rfl⟩ := List.mem_map.mp hf
    have hrel := hfind k
    rw [Assoc.find?_of_mem hvs hp] at hrel
    cases hw : Assoc.find? k ws with
    | none =>
      rw [hw] at hrel
      cases hrel
    | some w => exact ⟨(k, w), Assoc.mem_of_find? hw, rfl⟩
  · have hrel := hfind name
    rw [valuesOf_ofFields hvs]
    cases hv : Assoc.find? name vs <;> cases hw : Assoc.find? name ws <;> rw [hv, hw] at hrel <;>
      cases hrel
    · exact .none
    · next u w hu => exact .some ⟨u, hu, rfl⟩
  · rw [valuesOf_ofFields hvs]
    cases Assoc.find? name vs <;> simp

end Json
end PromptWeave
