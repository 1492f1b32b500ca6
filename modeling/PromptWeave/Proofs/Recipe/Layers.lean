import PromptWeave.Proofs.Assoc
import PromptWeave.Recipe.Template

/-! Layers that are put on one another.
The nearest layer counts, and the entries of the farthest come first. Each layer sees its paths from its
own base. -/
namespace PromptWeave
namespace Recipe

/-! ### What the layers give -/

theorem stack_entries (r : Recipe) (ls : List Recipe) (a : Area) :
    (r.stack ls).entries a = (ls.reverse.flatMap fun t => t.entries a) ++ r.entries a := by
  induction ls generalizing r with
  | nil => simp [stack]
  | cons t ts ih => simp [stack, mergedOnto, ih]

theorem stack_nearest {α : Type} {f : Recipe → Option α}
    (hf : ∀ r t : Recipe, f (r.mergedOnto t) = (f r).or (f t)) (r : Recipe) (ls : List Recipe) :
    f (r.stack ls) = (r :: ls).findSome? f := by
  induction ls generalizing r with
  | nil => simp [stack]
  | cons t ts ih =>
    rw [stack, hf, ih, List.findSome?_cons (a := r)]
    cases f r <;> rfl

theorem base_mergedOnto (r t : Recipe) : (r.mergedOnto t).base = r.base.or t.base :=
  Option.orElse_eq_or

theorem overrides_mergedOnto (r t : Recipe) :
    (r.mergedOnto t).overrides = r.overrides.or t.overrides := Option.orElse_eq_or

theorem structuredOutput_mergedOnto (r t : Recipe) :
    (r.mergedOnto t).structuredOutput = r.structuredOutput.or t.structuredOutput :=
  Option.orElse_eq_or

/-! ### Paths of a layer -/

/-- A path as a layer with the given base says it. -/
def saidFrom : Option Path → Path → Path
  | none, p => p
  | some base, p => rebase base p

@[simp] theorem rebased_base (t : Recipe) : t.rebased.base = t.base := by
  unfold rebased
  split <;> simp_all

@[simp] theorem saidFrom_none : saidFrom none = id := rfl

@[simp] theorem mapPaths_id : RecipeEntry.mapPaths id = id := by
  funext e
  cases e <;> simp [RecipeEntry.mapPaths]

theorem rebased_entries (t : Recipe) (a : Area) :
    t.rebased.entries a = (t.entries a).map (RecipeEntry.mapPaths (saidFrom t.base)) := by
  unfold rebased
  split
  next hb => simp [hb]
  next base hb => rw [hb]; rfl

theorem rebased_overrides (t : Recipe) :
    t.rebased.overrides = t.overrides.map fun o =>
      { o with directories := o.directories.map (saidFrom t.base) } := by
  unfold rebased
  split
  next hb => simp [hb]
  next base hb => rw [hb]; rfl

theorem rebased_template (t : Recipe) : t.rebased.template = t.template := by
  unfold rebased
  split <;> rfl

theorem rebased_parameters (t : Recipe) : t.rebased.parameters = t.parameters := by
  unfold rebased
  split <;> rfl

theorem rebased_structuredOutput (t : Recipe) :
    t.rebased.structuredOutput = t.structuredOutput := by
  unfold rebased
  split <;> rfl

/-! ### The recipe of all layers -/

theorem stack_overrides_rebased (r : Recipe) (ts : List Recipe) :
    (r.stack (ts.map rebased)).overrides = r.overrides.or (ts.findSome? fun t =>
      t.overrides.map fun o => { o with directories := o.directories.map (saidFrom t.base) }) := by
  rw [stack_nearest overrides_mergedOnto, List.findSome?_cons, List.findSome?_map]
  cases r.overrides with
  | some o => rfl
  | none => exact congrArg (List.findSome? · ts) (funext rebased_overrides)

/-- What a recipe says once its templates, the nearest first, are put in. -/
structure Layered (r : Recipe) (ts : List Recipe) (flat : Recipe) : Prop where
  template : flat.template = none
  base : flat.base = (r :: ts).findSome? Recipe.base
  parameters : ∀ key, flat.parameters.find? key =
    (r :: ts).findSome? fun l => l.parameters.find? key
  /-- The entries of the templates come first, those of the farthest before all others. -/
  entries : ∀ a, flat.entries a = (ts.reverse.flatMap fun t =>
    (t.entries a).map (RecipeEntry.mapPaths (saidFrom t.base))) ++ r.entries a
  overrides : flat.overrides = r.overrides.or (ts.findSome? fun t =>
    t.overrides.map fun o => { o with directories := o.directories.map (saidFrom t.base) })
  structuredOutput : flat.structuredOutput = (r :: ts).findSome? Recipe.structuredOutput

theorem Layered.unique {r flat flat' : Recipe} {ts : List Recipe} (h : Layered r ts flat)
    (h' : Layered r ts flat') : flat = flat' := by
  have hparameters : flat.parameters = flat'.parameters :=
    Dict.ext_find? fun key => (h.parameters key).trans (h'.parameters key).symm
  have hentries : flat.entries = flat'.entries :=
    funext fun a => (h.entries a).trans (h'.entries a).symm
  have htemplate := h.template.trans h'.template.symm
  have hbase := h.base.trans h'.base.symm
  have hoverrides := h.overrides.trans h'.overrides.symm
  have houtput := h.structuredOutput.trans h'.structuredOutput.symm
  cases flat
  cases flat'
  simp_all

end Recipe
end PromptWeave
