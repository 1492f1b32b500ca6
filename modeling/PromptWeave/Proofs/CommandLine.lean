import PromptWeave.CommandLine.Answer
import PromptWeave.Proofs.Files.Attempts
import PromptWeave.Proofs.Recipe.Resolving

/-! The arguments of the command as the topmost layer.
Recipes can be put on one another in any grouping, and a layer can be put on a recipe before its
templates are put in or after. The arguments are such a layer, so they decide against the recipe
file and against all of its templates. -/
namespace PromptWeave

namespace Recipe

theorem mergedOnto_assoc (a b c : Recipe) :
    (a.mergedOnto b).mergedOnto c = a.mergedOnto (b.mergedOnto c) := by
  simp only [mergedOnto, Dict.onto_assoc, List.append_assoc, Option.orElse_eq_orElse,
    Option.orElse_eq_or, Option.or_assoc]

theorem stack_mergedOnto (top r : Recipe) (ls : List Recipe) :
    (top.mergedOnto r).stack ls = top.mergedOnto (r.stack ls) := by
  cases ls with
  | nil => rfl
  | cons t ts => exact mergedOnto_assoc top r (stack t ts)

/-- A layer on top does not change which templates are put in, nor why that may fail. -/
theorem resolve_mergedOnto (top r : Recipe) (templates : Templates) :
    (top.mergedOnto r).resolve templates = (r.resolve templates).map top.mergedOnto := by
  have htemplate : (top.mergedOnto r).template = r.template := rfl
  rw [resolve, resolve, htemplate]
  cases chain templates maxTemplates [] r.template with
  | error e => rfl
  | ok ls => exact congrArg Except.ok (stack_mergedOnto top r ls)

theorem resolve_of_noTemplate {r : Recipe} (h : r.template = none) (templates : Templates) :
    r.resolve templates = .ok r := by
  rw [resolve, h]
  rfl

end Recipe

namespace CommandLine

def Command.result {α : Type} (files : FileSystem) (x : Command α) : Except Failure α :=
  (Reading.run files (ExceptT.run x)).1

namespace Command

variable {α β : Type} (files : FileSystem)

theorem result_bind (x : Command α) (f : α → Command β) :
    (x >>= f).result files = (x.result files).bind fun a => (f a).result files := by
  change (Reading.run files (ExceptT.run x >>= ExceptT.bindCont f)).1 = _
  rw [Reading.run_bind, result]
  cases (Reading.run files (ExceptT.run x)).1 <;> rfl

theorem result_attempt (x : Attempt α) :
    (attempt x).result files = (x.result files).mapError Failure.prompt := by
  change (Reading.run files (x.run >>= fun r => pure (r.mapError Failure.prompt))).1 = _
  rw [Reading.run_bind]
  rfl

end Command

/-- The recipe of the arguments, with the structured result that they ask for. -/
def layerOf (a : Arguments) (working : Path) (input : Option String)
    (output : Option StructuredOutput) : Recipe :=
  { recipeOf a working input with structuredOutput := output }

variable (files : FileSystem) (a : Arguments) (working : Path) (input : Option String)
  (output : Option StructuredOutput)

/-- The recipe file is read first, and the arguments are then put on top of it. -/
theorem result_fullRecipe :
    (fullRecipe a working input output).result files =
      match a.recipe with
      | some p => (((Recipe.ofFile p).result files).map
          (layerOf a working input output).mergedOnto).mapError Failure.prompt
      | none => .ok (layerOf a working input output) := by
  unfold fullRecipe
  cases a.recipe with
  | none => cases output <;> rfl
  | some p =>
    simp only [Command.result_bind, Command.result_attempt]
    cases (Recipe.ofFile p).result files <;> rfl

/-- A recipe says what the arguments say, and what another says where they are silent. -/
structure Governs (below flat : Recipe) : Prop where
  template : flat.template = below.template
  base : flat.base = below.base
  /-- Of several values given for one key the last counts. -/
  parameters : ∀ key, flat.parameters.find? key =
    (Assoc.find? key a.parameters.reverse).or (below.parameters.find? key)
  entries : ∀ area, flat.entries area =
    below.entries area ++ (recipeOf a working input).entries area
  overrides : flat.overrides = if a.overrideDirectories = [] then below.overrides
    else some ⟨a.overrideDirectories.map (Path.absolute working), a.allowFull⟩
  structuredOutput : flat.structuredOutput = output.or below.structuredOutput

theorem governs_layerOf (below : Recipe) :
    Governs a working input output below ((layerOf a working input output).mergedOnto below) where
  template := rfl
  base := rfl
  parameters key := by
    have hflags : (layerOf a working input output).parameters = Dict.ofList a.parameters := rfl
    rw [Recipe.mergedOnto, hflags, Dict.find?_onto, Dict.find?_ofList]
  entries area := rfl
  overrides := by
    cases hd : a.overrideDirectories <;> simp [Recipe.mergedOnto, layerOf, recipeOf, hd]
  structuredOutput := by cases output <;> rfl

/-- Recipes can be put on one another in any grouping, and a layer on top of a recipe stays on top
of all its templates: with the layer it ends in the same recipe, or in the same error, as without
it. What the command cooks is therefore what its recipe file gives with all templates put in, with
the arguments on top. -/
theorem layers_commute :
    (∀ r s t : Recipe, (r.mergedOnto s).mergedOnto t = r.mergedOnto (s.mergedOnto t)) ∧
    (∀ (top r : Recipe) (templates : Templates),
      (top.mergedOnto r).resolve templates = (r.resolve templates).map top.mergedOnto) ∧
    ∀ (files : FileSystem) (a : Arguments) (working : Path) (input : Option String)
      (output : Option StructuredOutput) (templates : Templates),
      (((fullRecipe a working input output).result files).bind fun r =>
          (r.resolve templates).mapError Failure.prompt) =
        (match a.recipe with
        | some p => ((((Recipe.ofFile p).result files).bind fun r => r.resolve templates).map
            (layerOf a working input output).mergedOnto).mapError Failure.prompt
        | none => .ok (layerOf a working input output)) ∧
      ∀ below, Governs a working input output below
        ((layerOf a working input output).mergedOnto below) := by
  refine ⟨Recipe.mergedOnto_assoc, Recipe.resolve_mergedOnto, ?arguments⟩
  intro files a working input output templates
  refine ⟨?_, governs_layerOf a working input output⟩
  rw [result_fullRecipe]
  cases a.recipe with
  | none =>
    have hresolve : (layerOf a working input output).resolve templates = .ok _ :=
      Recipe.resolve_of_noTemplate rfl templates
    simp only [Except.bind, hresolve, Except.mapError]
  | some p =>
    dsimp only
    cases (Recipe.ofFile p).result files with
    | error e => rfl
    | ok r =>
      have hresolve : ((layerOf a working input output).mergedOnto r).resolve templates = _ :=
        Recipe.resolve_mergedOnto _ r templates
      exact congrArg (Except.mapError Failure.prompt) hresolve

end CommandLine
end PromptWeave
