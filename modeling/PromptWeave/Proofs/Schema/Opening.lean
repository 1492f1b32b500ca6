import PromptWeave.Proofs.Schema.Resolving

/-! Inlining with one list of open references.
A reference is put on the list before its definition is inlined and taken off afterwards, whatever
came of the definition. Each call leaves the list as it was, also when it fails, and with fuel for as
many nested references as there are definitions it always ends. -/
namespace PromptWeave
namespace Schema

/-- A computation that works on the list of open references; without an answer where it ran out of
fuel. -/
abbrev Opening : Type → Type := ExceptT SchemaFault (StateT (List String) Option)

namespace Opening

variable {α β : Type}

def outOfFuel : Opening α := fun _ => none

def outcome (x : Opening α) : Opening (Except SchemaFault α) := ExceptT.lift x.run

/-- A computation goes on with the value and the list that the one before gave, unless that failed or
ran out of fuel. -/
theorem bind_apply (x : Opening α) (f : α → Opening β) (opened : List String) :
    (x >>= f) opened = (x opened).bind fun r => match r with
      | (.ok a, after) => f a after
      | (.error fault, after) => some (.error fault, after) := by
  change StateT.bind x.run _ opened = _
  rw [StateT.bind]
  refine Option.bind_congr fun r _ => ?_
  obtain ⟨r | a, after⟩ := r <;> rfl

theorem outcome_apply (x : Opening α) (opened : List String) :
    x.outcome opened = (x opened).map fun r => (.ok r.1, r.2) := by
  simp only [outcome, ExceptT.lift, ExceptT.mk, ExceptT.run, Functor.map, StateT.map]
  cases x opened with
  | none => rfl
  | some r => rfl

end Opening

mutual
/-- Replaces the references of a schema by what they are looked up as. -/
def inlineLooking (look : Json → Opening (List (String × Json))) : Json → Opening Json
  | .arr items => do return .arr (← inlineAllLooking look items)
  | .obj fields => do
    let kept ← inlineFieldsLooking look fields
    let merged ← match Assoc.find? "$ref" fields with
      | some reference => do pure (mergeMissing kept (← look reference))
      | none => pure kept
    return .obj (mergeSingle merged)
  | v => pure v
def inlineAllLooking (look : Json → Opening (List (String × Json))) :
    List Json → Opening (List Json)
  | [] => pure []
  | v :: vs => do
    let v ← inlineLooking look v
    return v :: (← inlineAllLooking look vs)
def inlineFieldsLooking (look : Json → Opening (List (String × Json))) :
    List (String × Json) → Opening (List (String × Json))
  | [] => pure []
  | (k, v) :: rest => do
    match ← inlineFieldLooking look (inliningOf k) v with
    | some w => return (k, w) :: (← inlineFieldsLooking look rest)
    | none => inlineFieldsLooking look rest
def inlineFieldLooking (look : Json → Opening (List (String × Json))) :
    Treatment → Json → Opening (Option Json)
  | .drop, _ => pure none
  | .nested, v => do return some (← inlineLooking look v)
  | .properties, .obj fields => do return some (.obj (← inlinePropertiesLooking look fields))
  | .properties, v | .keep, v => pure (some v)
def inlinePropertiesLooking (look : Json → Opening (List (String × Json))) :
    List (String × Json) → Opening (List (String × Json))
  | [] => pure []
  | (name, v) :: rest => do
    let v ← inlineLooking look v
    return (name, v) :: (← inlinePropertiesLooking look rest)
end

def lookUp (defs : Dict Json) (within : Json → Opening Json) :
    Json → Opening (List (String × Json))
  | .str path => do
    if (← get).contains path then throw (.recursiveReference path)
    else match defs.find? path with
      | none => throw (.unresolvedReference path)
      | some target => do
        modify (path :: ·)
        let result ← (within target).outcome
        modify List.tail
        match result with
        | .ok (.obj fields) => return fields
        | .ok other => throw (.referenceNotObject path other)
        | .error fault => throw fault
  | other => throw (.referenceNotString other)

def inlineOpening (defs : Dict Json) : (fuel : Nat) → Json → Opening Json
  | 0 => inlineLooking (lookUp defs fun _ => .outOfFuel)
  | fuel + 1 => inlineLooking (lookUp defs (inlineOpening defs fuel))

/-! ### What carries over to inlining -/

/-- A relation between computations on open references and results that goes with putting
computations one after another. -/
structure Carried (Rel : {α : Type} → Opening α → Except SchemaFault α → Prop) : Prop where
  pure {α : Type} (a : α) : Rel (pure a) (.ok a)
  bind {α β : Type} {x : Opening α} {y : Except SchemaFault α} {f : α → Opening β}
    {g : α → Except SchemaFault β} (h : Rel x y) (hf : ∀ a, Rel (f a) (g a)) :
    Rel (x >>= f) (y >>= g)

section Carried

variable {Rel : {α : Type} → Opening α → Except SchemaFault α → Prop}
  {look : Json → Opening (List (String × Json))} {resolve : Resolver}

mutual
/-- What holds of looking references up and of resolving them holds of inlining with either. -/
theorem carried_inline (hRel : Carried Rel) (h : ∀ a, Rel (look a) (resolve a)) (s : Json) :
    Rel (inlineLooking look s) (inlineBy resolve s) := by
  cases s with
  | arr items =>
    simp only [inlineLooking, inlineBy]
    exact hRel.bind (carried_inlineAll hRel h items) fun os => hRel.pure (Json.arr os)
  | obj fields =>
    simp only [inlineLooking, inlineBy]
    refine hRel.bind (carried_inlineFields hRel h fields) fun kept => ?_
    cases Assoc.find? "$ref" fields with
    | none => exact hRel.bind (hRel.pure kept) fun merged => hRel.pure (Json.obj (mergeSingle merged))
    | some a =>
      exact hRel.bind (h a) fun target => hRel.bind (hRel.pure (mergeMissing kept target))
        fun merged => hRel.pure (Json.obj (mergeSingle merged))
  | _ =>
    simp only [inlineLooking, inlineBy]
    exact hRel.pure _
theorem carried_inlineAll (hRel : Carried Rel) (h : ∀ a, Rel (look a) (resolve a))
    (items : List Json) : Rel (inlineAllLooking look items) (inlineAllBy resolve items) := by
  cases items with
  | nil =>
    simp only [inlineAllLooking, inlineAllBy]
    exact hRel.pure []
  | cons v vs =>
    simp only [inlineAllLooking, inlineAllBy]
    exact hRel.bind (carried_inline hRel h v) fun o =>
      hRel.bind (carried_inlineAll hRel h vs) fun os => hRel.pure (o :: os)
theorem carried_inlineFields (hRel : Carried Rel) (h : ∀ a, Rel (look a) (resolve a))
    (fields : List (String × Json)) :
    Rel (inlineFieldsLooking look fields) (inlineFieldsBy resolve fields) := by
  cases fields with
  | nil =>
    simp only [inlineFieldsLooking, inlineFieldsBy]
    exact hRel.pure []
  | cons p rest =>
    obtain ⟨k, v⟩ := p
    simp only [inlineFieldsLooking, inlineFieldsBy]
    refine hRel.bind (carried_inlineField hRel h (inliningOf k) v) fun r => ?_
    cases r with
    | none => exact carried_inlineFields hRel h rest
    | some w =>
      exact hRel.bind (carried_inlineFields hRel h rest) fun ws => hRel.pure ((k, w) :: ws)
theorem carried_inlineField (hRel : Carried Rel) (h : ∀ a, Rel (look a) (resolve a))
    (t : Treatment) (v : Json) : Rel (inlineFieldLooking look t v) (inlineFieldBy resolve t v) := by
  cases t with
  | nested =>
    simp only [inlineFieldLooking, inlineFieldBy]
    exact hRel.bind (carried_inline hRel h v) fun w => hRel.pure (some w)
  | properties =>
    cases v with
    | obj fields =>
      simp only [inlineFieldLooking, inlineFieldBy]
      exact hRel.bind (carried_inlineProperties hRel h fields) fun ws => hRel.pure (some (Json.obj ws))
    | _ =>
      simp only [inlineFieldLooking, inlineFieldBy]
      exact hRel.pure _
  | _ =>
    simp only [inlineFieldLooking, inlineFieldBy]
    exact hRel.pure _
theorem carried_inlineProperties (hRel : Carried Rel) (h : ∀ a, Rel (look a) (resolve a))
    (props : List (String × Json)) :
    Rel (inlinePropertiesLooking look props) (inlinePropertiesBy resolve props) := by
  cases props with
  | nil =>
    simp only [inlinePropertiesLooking, inlinePropertiesBy]
    exact hRel.pure []
  | cons p rest =>
    obtain ⟨name, v⟩ := p
    simp only [inlinePropertiesLooking, inlinePropertiesBy]
    exact hRel.bind (carried_inline hRel h v) fun o =>
      hRel.bind (carried_inlineProperties hRel h rest) fun ws => hRel.pure ((name, o) :: ws)
end

end Carried

/-! ### The list afterwards -/

variable {defs : Dict Json}

theorem carried_balanced : Carried fun x _ =>
    ∀ opened r after, x opened = some (r, after) → after = opened where
  pure a opened r after h := by
    cases h
    rfl
  bind {_ _ x _ f _} h hf opened r after hbind := by
    rw [Opening.bind_apply, Option.bind_eq_some_iff] at hbind
    obtain ⟨⟨first, between⟩, hx, hrest⟩ := hbind
    cases h opened _ between hx
    cases first with
    | ok a => exact hf a opened r after hrest
    | error fault =>
      cases hrest
      rfl

def objectFields (path : String) : Json → Except SchemaFault (List (String × Json))
  | .obj fields => .ok fields
  | other => .error (.referenceNotObject path other)

theorem lookUp_str (within : Json → Opening Json) (path : String) (opened : List String) :
    lookUp defs within (.str path) opened =
      if opened.contains path then some (.error (.recursiveReference path), opened)
      else match defs.find? path with
        | none => some (.error (.unresolvedReference path), opened)
        | some target => (within target (path :: opened)).map fun r =>
            (r.1 >>= objectFields path, r.2.tail) := by
  rw [lookUp, Opening.bind_apply]
  change (if opened.contains path = true then _ else _ : Opening _) opened = _
  split
  next => rfl
  next =>
    cases defs.find? path with
    | none => rfl
    | some target =>
      change ((within target).outcome >>= _ : Opening _) (path :: opened) =
        (within target (path :: opened)).map _
      rw [Opening.bind_apply, Opening.outcome_apply]
      cases within target (path :: opened) with
      | none => rfl
      | some r =>
        obtain ⟨fault | o, after⟩ := r
        · rfl
        · cases o <;> rfl

theorem resolveWith_str (within : List String → Json → Except SchemaFault Json) (path : String)
    (opened : List String) : resolveWith defs opened within (.str path) =
      if opened.contains path then .error (.recursiveReference path)
      else match defs.find? path with
        | none => .error (.unresolvedReference path)
        | some target => within (path :: opened) target >>= objectFields path := by
  rw [resolveWith]
  split
  next => rfl
  next =>
    cases defs.find? path with
    | none => rfl
    | some target =>
      cases within (path :: opened) target with
      | error => rfl
      | ok o => cases o <;> rfl

theorem balanced_lookUp {within : Json → Opening Json}
    (h : ∀ s opened r after, within s opened = some (r, after) → after = opened) (a : Json) :
    ∀ opened r after, lookUp defs within a opened = some (r, after) → after = opened := by
  intro opened r after ha
  cases a with
  | str path =>
    rw [lookUp_str] at ha
    split at ha
    next =>
      cases ha
      rfl
    next =>
      split at ha
      next =>
        cases ha
        rfl
      next target _ =>
        obtain ⟨⟨first, between⟩, hwithin, hr⟩ := Option.map_eq_some_iff.mp ha
        have hbetween : between = path :: opened := h target _ first between hwithin
        cases hr
        rw [hbetween, List.tail_cons]
  | _ =>
    cases ha
    rfl

/-- Every call leaves the list of open references as it was, whatever its outcome. -/
theorem balanced_inlineOpening (fuel : Nat) (s : Json) :
    ∀ opened r after, inlineOpening defs fuel s opened = some (r, after) → after = opened := by
  have hlooking : ∀ look : Json → Opening (List (String × Json)),
      (∀ a opened r after, look a opened = some (r, after) → after = opened) →
        ∀ s opened r after, inlineLooking look s opened = some (r, after) → after = opened :=
    fun look hlook s => @carried_inline _ look (fun a => .error (.referenceNotString a))
      carried_balanced hlook s
  induction fuel generalizing s with
  | zero =>
    refine hlooking _ (balanced_lookUp fun _ opened r after h => ?_) s
    cases h
  | succ fuel ih => exact hlooking _ (balanced_lookUp ih) s

/-! ### The result -/

/-- Fuel for more than all definitions makes no difference. -/
theorem resolveAt_fuel {fuel fuel' : Nat} {opened : List String} (hroom : Room defs fuel opened)
    (h : fuel ≤ fuel') : resolveAt defs fuel' opened = resolveAt defs fuel opened := by
  induction fuel generalizing fuel' opened with
  | zero =>
    cases fuel' with
    | zero => rfl
    | succ n =>
      funext a
      cases a with
      | str path =>
        rw [resolveAt, resolveAt, resolveWith_str, resolveWith_str]
        split
        next => rfl
        next hnew =>
          cases hdef : defs.find? path with
          | none => rfl
          | some target => exact absurd (hroom.full hdef) (by simpa using hnew)
      | _ => rfl
  | succ fuel ih =>
    obtain ⟨fuel', rfl⟩ : ∃ n, fuel' = n + 1 := ⟨fuel' - 1, by omega⟩
    funext a
    cases a with
    | str path =>
      rw [resolveAt, resolveAt, resolveWith_str, resolveWith_str]
      split
      next => rfl
      next hnew =>
        cases hdef : defs.find? path with
        | none => rfl
        | some target =>
          simp only [inlineWithin_eq]
          rw [ih (hroom.next (by simpa using hnew) hdef) (by omega)]
    | _ => rfl

theorem inlineWithin_fuel {fuel : Nat} {root : Json} (h : (definitions root).size ≤ fuel) :
    inlineWithin (definitions root) fuel [] root = inlineReferences root := by
  rw [inlineReferences, inlineWithin_eq, inlineWithin_eq,
    resolveAt_fuel (Room.start _ _ (Nat.le_refl _)) h]

theorem carried_settled (opened : List String) :
    Carried fun x y => x opened = some (y, opened) where
  pure _ := rfl
  bind {_ _ _ y _ _} h hf := by
    rw [Opening.bind_apply, h]
    cases y with
    | ok a => exact hf a
    | error => rfl

theorem lookUp_eq {within : Json → Opening Json}
    {within' : List String → Json → Except SchemaFault Json} {opened : List String}
    (h : ∀ path target, path ∉ opened → defs.find? path = some target →
      within target (path :: opened) = some (within' (path :: opened) target, path :: opened))
    (a : Json) : lookUp defs within a opened = some (resolveWith defs opened within' a, opened) := by
  cases a with
  | str path =>
    rw [lookUp_str, resolveWith_str]
    split
    next => rfl
    next hnew =>
      cases hdef : defs.find? path with
      | none => rfl
      | some target => simp [h path target (by simpa using hnew) hdef]
  | _ => rfl

/-- With fuel for all definitions that are not open inlining with one list gives what inlining
gives. -/
theorem inlineOpening_eq {fuel : Nat} {opened : List String} (hroom : Room defs fuel opened)
    (s : Json) :
    inlineOpening defs fuel s opened = some (inlineWithin defs fuel opened s, opened) := by
  induction fuel generalizing opened s with
  | zero =>
    refine carried_inline (carried_settled opened) (lookUp_eq fun path target hnew hdef => ?_) s
    exact absurd (hroom.full hdef) hnew
  | succ fuel ih =>
    exact carried_inline (carried_settled opened)
      (lookUp_eq fun path target hnew hdef => ih (hroom.next hnew hdef) target) s

end Schema
end PromptWeave
