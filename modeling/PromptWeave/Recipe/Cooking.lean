import PromptWeave.Assembly
import PromptWeave.Recipe.Template

/-! Prompts from recipes. -/
namespace PromptWeave
namespace Recipe

/-- The step that an entry stands for. -/
def stepOf (a : Area) : RecipeEntry → Assembly.Step
  | .text t => .add a .none (.text t)
  | .path p => .file a p
  | .directories ps => .folders a ps
  | .inline t title weight => .add a .none (.leaf ⟨a.kind, t, weight, none, title⟩)

/-- The steps of a recipe, area by area. -/
def steps (r : Recipe) : List Assembly.Step :=
  areas.flatMap (fun a => (r.entries a).map (stepOf a)) ++
    (r.structuredOutput.map Assembly.Step.output).toList

/-- Override directories are seen from the base too. -/
def assembly (r : Recipe) : Assembly :=
  let base := r.base.getD Assembly.standard.base
  let overrides := match r.overrides with
    | some o => { o with directories := o.directories.map (rebase base) }
    | none => .none
  { Assembly.standard with base, parameters := r.parameters, overrides }

/-- The prompt of a recipe, with its templates. -/
def cook (r : Recipe) (templates : Templates) : Attempt Prompt := do
  let flat ← ExceptT.mk (.done (r.resolve templates))
  flat.assembly.build flat.steps

end Recipe
end PromptWeave
