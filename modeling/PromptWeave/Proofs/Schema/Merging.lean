import PromptWeave.Proofs.Assoc
import PromptWeave.Schema.Inlining

/-! Fields merged into fields.
A merge keeps all fields that are there and adds those with new keys. What it leaves out are exactly
the fields whose keys were taken. -/
namespace PromptWeave
namespace Schema

/-- The fields that a merge leaves out. -/
def leftOut (fields : List (String × Json)) : List (String × Json) → List (String × Json)
  | [] => []
  | (k, v) :: added =>
    if (Assoc.find? k fields).isSome then (k, v) :: leftOut fields added
    else leftOut (Assoc.insert k v fields) added

@[simp] theorem mergeMissing_nil (fields : List (String × Json)) :
    mergeMissing fields [] = fields := rfl

theorem mergeMissing_cons (fields added : List (String × Json)) (k : String) (v : Json) :
    mergeMissing fields ((k, v) :: added) =
      if (Assoc.find? k fields).isSome then mergeMissing fields added
      else mergeMissing (Assoc.insert k v fields) added := by
  by_cases hk : (Assoc.find? k fields).isSome = true <;>
    simp [mergeMissing, List.foldl_cons, hk]

/-- What is there comes before what is added. -/
theorem find?_mergeMissing (fields added : List (String × Json)) (key : String) :
    Assoc.find? key (mergeMissing fields added) =
      (Assoc.find? key fields).or (Assoc.find? key added) := by
  induction added generalizing fields with
  | nil => simp
  | cons p added ih =>
    obtain ⟨k, w⟩ := p
    rw [mergeMissing_cons, Assoc.find?_cons]
    split
    next hthere =>
      obtain ⟨u, hu⟩ := Option.isSome_iff_exists.mp hthere
      rw [ih]
      by_cases hk : k = key
      · subst hk
        simp [hu]
      · simp [hk]
    next hnew =>
      have hnone : Assoc.find? k fields = none := by simpa using hnew
      rw [ih, Assoc.find?_insert]
      by_cases hk : k = key
      · subst hk
        simp [hnone]
      · simp [hk]

theorem nodup_mergeMissing {fields : List (String × Json)} (added : List (String × Json))
    (h : (fields.map (·.1)).Nodup) : ((mergeMissing fields added).map (·.1)).Nodup := by
  induction added generalizing fields with
  | nil => exact h
  | cons p added ih =>
    obtain ⟨k, w⟩ := p
    rw [mergeMissing_cons]
    split
    next => exact ih h
    next hnew =>
      have hnone : Assoc.find? k fields = none := by simpa using hnew
      apply ih
      rw [((Assoc.insert_perm hnone w).map (·.1)).nodup_iff, List.map_cons, List.nodup_cons]
      refine ⟨fun hmem => ?_, h⟩
      obtain ⟨⟨l, u⟩, hp, rfl⟩ := List.mem_map.mp hmem
      exact Assoc.find?_eq_none.mp hnone u hp

theorem mergeSingle_of_single {fields only : List (String × Json)}
    (h : Assoc.find? "allOf" fields = some (.arr [.obj only])) :
    mergeSingle fields = mergeMissing (Assoc.erase "allOf" fields) only := by
  rw [mergeSingle, h]

theorem mergeSingle_of_none {fields : List (String × Json)}
    (h : ∀ only, Assoc.find? "allOf" fields ≠ some (.arr [.obj only])) :
    mergeSingle fields = fields := by
  unfold mergeSingle
  split
  next only ho => exact absurd ho (h only)
  next => rfl

theorem sorted_mergeMissing {fields : List (String × Json)} (added : List (String × Json))
    (h : Assoc.Sorted fields) : Assoc.Sorted (mergeMissing fields added) := by
  induction added generalizing fields with
  | nil => exact h
  | cons p added ih =>
    obtain ⟨k, w⟩ := p
    rw [mergeMissing_cons]
    split
    next => exact ih h
    next => exact ih (Assoc.sorted_insert k w h)

theorem sorted_mergeSingle {fields : List (String × Json)} (h : Assoc.Sorted fields) :
    Assoc.Sorted (mergeSingle fields) := by
  unfold mergeSingle
  split
  next only _ => exact sorted_mergeMissing only (Assoc.sorted_erase "allOf" h)
  next => exact h

theorem nodup_mergeSingle {fields : List (String × Json)} (h : (fields.map (·.1)).Nodup) :
    ((mergeSingle fields).map (·.1)).Nodup := by
  unfold mergeSingle
  split
  next only _ => exact nodup_mergeMissing only (h.sublist (List.filter_sublist.map _))
  next => exact h

end Schema
end PromptWeave
