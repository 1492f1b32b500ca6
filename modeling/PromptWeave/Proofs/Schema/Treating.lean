import Mathlib.Logic.Relation
import PromptWeave.Proofs.Lists
import PromptWeave.Schema.Inlining

/-! Passes over a schema.
A pass enters the schemas in the arguments of some keywords, drops some keywords and keeps others as
they are. How a keyword is treated decides what becomes of its argument. -/
namespace PromptWeave
namespace Schema

inductive EntersBy (treat : String → Treatment) : Json → Json → Prop
  | item {items : List Json} {s : Json} (h : s ∈ items) : EntersBy treat (.arr items) s
  | nested {fields : List (String × Json)} {k : String} {s : Json} (h : (k, s) ∈ fields)
      (hk : treat k = .nested) : EntersBy treat (.obj fields) s
  | property {fields props : List (String × Json)} {k name : String} {s : Json}
      (h : (k, .obj props) ∈ fields) (hk : treat k = .properties) (hs : (name, s) ∈ props) :
      EntersBy treat (.obj fields) s

theorem sizeOf_lt_of_mem_fields {fields : List (String × Json)} {k : String} {s : Json}
    (h : (k, s) ∈ fields) : sizeOf s < sizeOf (Json.obj fields) := by
  have hlt := List.sizeOf_lt_of_mem h
  simp only [Prod.mk.sizeOf_spec] at hlt
  simp only [Json.obj.sizeOf_spec]
  omega

theorem EntersBy.sizeOf_lt {treat : String → Treatment} {s t : Json} (h : EntersBy treat s t) :
    sizeOf t < sizeOf s := by
  cases h with
  | item h =>
    have hlt := List.sizeOf_lt_of_mem h
    simp only [Json.arr.sizeOf_spec]
    omega
  | nested h => exact sizeOf_lt_of_mem_fields h
  | property h _ hs => exact Nat.lt_trans (sizeOf_lt_of_mem_fields hs) (sizeOf_lt_of_mem_fields h)

/-- How the argument of a keyword is replaced when `f` replaces schemas. -/
inductive Replaced (f : Json → Except SchemaFault Json) : Treatment → Json → Json → Prop
  | nested {v w : Json} (h : f v = .ok w) : Replaced f .nested v w
  | properties {props ws : List (String × Json)}
      (h : List.Forall₂ (fun p q => p.1 = q.1 ∧ f p.2 = .ok q.2) props ws) :
      Replaced f .properties (.obj props) (.obj ws)
  | noProperties {v : Json} (h : ∀ props, v ≠ .obj props) : Replaced f .properties v v
  | keep (v : Json) : Replaced f .keep v v

@[simp] theorem replaced_nested {f : Json → Except SchemaFault Json} {v w : Json} :
    Replaced f .nested v w ↔ f v = .ok w := by
  constructor
  · rintro ⟨h⟩
    exact h
  · exact .nested

theorem replaced_obj {f : Json → Except SchemaFault Json} {v : Json} {ws : List (String × Json)}
    (h : Replaced f .properties v (.obj ws)) : ∃ props, v = .obj props ∧
      List.Forall₂ (fun p q => p.1 = q.1 ∧ f p.2 = .ok q.2) props ws := by
  cases h with
  | properties h => exact ⟨_, rfl, h⟩
  | noProperties h => exact absurd rfl (h ws)

theorem replaced_aside {f : Json → Except SchemaFault Json} {t : Treatment} {v w : Json}
    (ht : t = .keep ∨ t = .properties ∧ ((∀ props, v ≠ .obj props) ∨ ∀ props, w ≠ .obj props)) :
    Replaced f t v w ↔ v = w := by
  constructor
  · intro h
    cases h with
    | nested => simp at ht
    | @properties props ws => exact absurd ht (by simp)
    | noProperties => rfl
    | keep => rfl
  · rintro rfl
    rcases ht with rfl | ⟨rfl, hno⟩
    · exact .keep v
    · exact .noProperties (hno.elim id id)

theorem Replaced.unique {f : Json → Except SchemaFault Json} {t : Treatment} {v w w' : Json}
    (h : Replaced f t v w) (h' : Replaced f t v w') : w = w' := by
  cases h with
  | nested h =>
    cases h' with
    | nested h' => exact Except.ok.inj (h.symm.trans h')
  | @properties props ws h =>
    cases h' with
    | @properties _ ws' h' =>
      have hunique : Relator.RightUnique
          fun p q : String × Json => p.1 = q.1 ∧ f p.2 = .ok q.2 := by
        rintro p ⟨_, w⟩ ⟨_, w'⟩ ⟨rfl, hw⟩ ⟨rfl, hw'⟩
        exact congrArg _ (Except.ok.inj (hw.symm.trans hw'))
      rw [hunique.forall₂ h h']
    | noProperties h' => exact absurd rfl (h' props)
  | noProperties h =>
    cases h' with
    | properties h' => exact absurd rfl (h _)
    | noProperties => rfl
  | keep =>
    cases h'
    rfl

def treated (f : Json → Except SchemaFault Json) :
    Treatment → Json → Except SchemaFault (Option Json)
  | .drop, _ => .ok none
  | .nested, v => do return some (← f v)
  | .properties, .obj props => do
    return some (.obj (← props.mapM fun p => do return (p.1, ← f p.2)))
  | .properties, v | .keep, v => .ok (some v)

@[simp] theorem replaced_keep {f : Json → Except SchemaFault Json} {v w : Json} :
    Replaced f .keep v w ↔ v = w := replaced_aside (Or.inl rfl)

theorem not_replaced_drop {f : Json → Except SchemaFault Json} {v w : Json} :
    ¬ Replaced f .drop v w := fun h => by cases h

theorem mapM_named_eq_ok {f : Json → Except SchemaFault Json} {props ws : List (String × Json)} :
    props.mapM (fun p => do return (p.1, ← f p.2)) = .ok ws ↔
      List.Forall₂ (fun p q => p.1 = q.1 ∧ f p.2 = .ok q.2) props ws := by
  have hpair : ∀ (p q : String × Json), (do return (p.1, ← f p.2)) = Except.ok q ↔
      p.1 = q.1 ∧ f p.2 = .ok q.2 := by
    rintro p ⟨k, w⟩
    simp only [bind_eq_ok, pure_eq_ok, Prod.mk.injEq]
    constructor
    · rintro ⟨_, hw, hk, rfl⟩
      exact ⟨hk, hw⟩
    · rintro ⟨hk, hw⟩
      exact ⟨w, hw, hk, rfl⟩
  simp only [mapM_eq_ok, hpair]

theorem replaced_properties {f : Json → Except SchemaFault Json} {props : List (String × Json)}
    {w : Json} : Replaced f .properties (.obj props) w ↔
      ∃ ws, List.Forall₂ (fun p q => p.1 = q.1 ∧ f p.2 = .ok q.2) props ws ∧ w = .obj ws := by
  constructor
  · intro h
    cases h with
    | properties h => exact ⟨_, h, rfl⟩
    | noProperties h => exact absurd rfl (h props)
  · rintro ⟨ws, hws, rfl⟩
    exact .properties hws

/-- An argument is dropped or replaced. -/
theorem treated_eq_ok {f : Json → Except SchemaFault Json} {t : Treatment} {v : Json}
    {r : Option Json} : treated f t v = .ok r ↔
      (t = .drop ∧ r = none) ∨ ∃ w, Replaced f t v w ∧ r = some w := by
  cases t with
  | drop => simp [treated, not_replaced_drop, eq_comm]
  | keep => simp [treated, eq_comm]
  | nested =>
    simp only [treated, bind_eq_ok, pure_eq_ok, replaced_nested, reduceCtorEq, false_and, false_or]
    exact exists_congr fun w => and_congr_right fun _ => eq_comm
  | properties =>
    by_cases hv : ∃ props, v = .obj props
    · obtain ⟨props, rfl⟩ := hv
      simp only [treated, bind_eq_ok, pure_eq_ok, mapM_named_eq_ok, replaced_properties,
        reduceCtorEq, false_and, false_or]
      constructor
      · rintro ⟨ws, hws, rfl⟩
        exact ⟨_, ⟨ws, hws, rfl⟩, rfl⟩
      · rintro ⟨_, ⟨ws, hws, rfl⟩, rfl⟩
        exact ⟨ws, hws, rfl⟩
    · have hno : ∀ props, v ≠ .obj props := fun props he => hv ⟨props, he⟩
      have heq : treated f .properties v = .ok (some v) := by
        cases v <;> simp_all [treated]
      simp [heq, replaced_aside (Or.inr ⟨rfl, Or.inl hno⟩), eq_comm]

end Schema
end PromptWeave
