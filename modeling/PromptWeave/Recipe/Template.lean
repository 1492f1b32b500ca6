import PromptWeave.Files.Reading
import PromptWeave.Recipe.Basic

/-! Templates by name, and recipes with their templates put in.
The chain of templates may be eight long and must not come back to a name. -/
namespace PromptWeave

abbrev Templates := Dict Recipe

namespace Recipe

def maxTemplates : Nat := 8

/-- The templates from a name on, each with its own paths; `budget` more are allowed. -/
def chain (templates : Templates) : Nat → List String → Option String → Except Error (List Recipe)
  | _, _, none => .ok []
  | budget, seen, some name =>
    if seen.contains name then .error (.config (.templateCycle seen name))
    else match budget with
      | 0 => .error (.config (.templatesTooDeep maxTemplates))
      | budget + 1 => match templates.find? name with
        | none => .error (.config (.unknownTemplate name))
        | some t => do return t.rebased :: (← chain templates budget (seen ++ [name]) t.template)

/-- Layers put on one another, the first on top. -/
def stack (r : Recipe) : List Recipe → Recipe
  | [] => r
  | t :: ts => r.mergedOnto (stack t ts)

/-- The recipe with all its templates below it. -/
def resolve (r : Recipe) (templates : Templates) : Except Error Recipe := do
  return r.stack (← chain templates maxTemplates [] r.template)

/-- A recipe in a file, which sees its relative paths from the directory of the file. -/
def ofFile (p : Path) : Attempt Recipe := do
  let text ← Files.text p
  match Recipe.read text with
  | .ok r => return { r with base := some (fileBase p r.base) }
  | .error f => throw (.config (.badRecipeFile p f))

end Recipe

namespace Templates

/-- The name of the template in a file of a directory, if it is one. -/
def nameOf? (file : String) : Option String :=
  let p : Path := ⟨file⟩
  if p.extension = some "json".toList then p.stem.map String.ofList else none

def addFiles (directory : Path) (templates : Templates) : List String → Reading Templates
  | [] => .done templates
  | file :: more => match nameOf? file with
    | none => addFiles directory templates more
    | some name => do
      match ← (Recipe.ofFile (directory.join ⟨file⟩)).run with
      | .ok r => addFiles directory (templates.insert name r) more
      | .error e =>
        Reading.warning ("Skipping template: " ++ e.sanitized)
        addFiles directory templates more

/-- The recipes of a directory, each under the name of its file. -/
def ofDirectory (directory : Path) : Attempt Templates := do
  addFiles directory .empty (← Files.names directory)

end Templates
end PromptWeave
