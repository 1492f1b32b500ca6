import PromptWeave.CommandLine.Arguments
import PromptWeave.Format
import PromptWeave.Provider.Response
import PromptWeave.Recipe.Cooking
import PromptWeave.Schema.Output

/-! What the command answers.
It prints the request that a prompt makes, or the completion in an answer of a provider. The prompt
is a recipe made from the arguments, on top of the recipe in a file if one is named. -/
namespace PromptWeave
namespace CommandLine

/-- Why the command has no answer. -/
inductive Failure
  | unreadable (p : Path) (cause : OsError)
  | notJson (p : Path) (fault : Json.Fault)
  | input (cause : OsError)
  | prompt (e : Error)

def Failure.message : Failure → String
  | .unreadable p cause => "failed to read " ++ p.text ++ ": " ++ cause.message
  | .notJson p fault => p.text ++ " is not valid JSON: " ++ fault.message
  | .input cause => "Failed to read stdin: " ++ cause.message
  | .prompt e => e.message

abbrev Command := ExceptT Failure Reading

def attempt {α : Type} (x : Attempt α) : Command α :=
  ExceptT.mk do return (← x.run).mapError Failure.prompt

def ofExcept {α : Type} (x : Except Error α) : Command α :=
  ExceptT.mk (.done (x.mapError Failure.prompt))

def readText (p : Path) : Command String :=
  ExceptT.mk (.text p fun r => .done (r.mapError (Failure.unreadable p)))

def readSchema (p : Path) : Command Json := do
  match Json.read (← readText p) with
  | .ok v => return v
  | .error f => throw (.notJson p f)

/-- The structured result that the arguments ask for. -/
def outputOf (a : Arguments) : Command (Option StructuredOutput) := do
  match a.schema with
  | some p => return some ⟨a.schemaName, none, ← readSchema p, none⟩
  | none => return none

/-- The completion in a saved answer, checked against the schema if there is one. -/
def completion (validator : Schema.Validator) (a : Arguments) (output : Option StructuredOutput)
    (p : Path) : Command Json := do
  let body ← readText p
  let provider := (Formatter.standard.registry.lookup a.model).provider
  let c ← ofExcept (provider.parseCompletion body)
  if let some o := output then
    let _ ← ofExcept (o.validate validator c.content)
  return c.encode

/-- The recipe made from the arguments alone; paths are seen from the working directory. -/
def recipeOf (a : Arguments) (working : Path) (input : Option String) : Recipe :=
  let absolute := Path.absolute working
  let texts := List.map RecipeEntry.text
  let files (ps : List Path) := ps.map fun p => RecipeEntry.path (absolute p)
  let folders :=
    if a.context.isEmpty then [] else [RecipeEntry.directories (a.context.map absolute)]
  { Recipe.empty with
    parameters := Dict.ofList a.parameters
    entries := fun
      | .persona => texts a.persona.toList ++ files a.personaFile.toList
      | .instructions => texts a.instructions ++ files a.instructionsFiles
      | .context => folders
      | .content => texts (a.content ++ input.toList)
      | _ => []
    overrides :=
      if a.overrideDirectories.isEmpty then none
      else some ⟨a.overrideDirectories.map absolute, a.allowFull⟩ }

/-- The arguments on top of the recipe file, with the structured result they ask for. -/
def fullRecipe (a : Arguments) (working : Path) (input : Option String)
    (output : Option StructuredOutput) : Command Recipe := do
  let own := recipeOf a working input
  let r ← match a.recipe with
    | some p => do pure (own.mergedOnto (← attempt (Recipe.ofFile p)))
    | none => pure own
  return { r with structuredOutput := output <|> r.structuredOutput }

def templatesOf (a : Arguments) : Command Templates :=
  match a.templates with
  | some directory => attempt (Templates.ofDirectory directory)
  | none => return .empty

def formatterOf (a : Arguments) : Formatter :=
  { Formatter.standard with options := { FormatOptions.standard with
      areaStyle := a.areaStyle
      sectionStyle := a.sectionStyle
      indentation := a.indent } }

/-- The request in the form of the provider, or in that of none. -/
def payload (a : Arguments) (p : Prompt) : Command Json :=
  let f := formatterOf a
  if a.neutral then return (f.format a.model p).encode.sortKeys
  else do return (← ofExcept (f.formatFor a.model p)).encode

/-- The value that is printed. -/
def answer (validator : Schema.Validator) (a : Arguments) (working : Path)
    (input : Except OsError String) : Command Json := do
  let output ← outputOf a
  if let some p := a.response then return ← completion validator a output p
  let input ← if a.fromInput then
      match input with
      | .ok text => pure (some text)
      | .error cause => throw (.input cause)
    else pure none
  let recipe ← fullRecipe a working input output
  let templates ← templatesOf a
  let prompt ← attempt (recipe.cook templates)
  payload a prompt

/-- What a run of the command leaves behind. -/
structure Outcome where
  code : Nat
  out : String
  err : String
deriving DecidableEq, Repr

/-- Runs the command; `input` is what stands on its standard input. -/
def run (validator : Schema.Validator) (words : List String) (working : Path)
    (input : Except OsError String) : Reading Outcome := do
  match Arguments.ofWords words with
  | .error .help => return ⟨0, usage, ""⟩
  | .error .misuse => return ⟨2, "", usage⟩
  | .ok a => match ← (answer validator a working input).run with
    | .ok v => return ⟨0, v.spread ++ "\n", ""⟩
    | .error f => return ⟨1, "", "Error: " ++ f.message ++ "\n"⟩

/-- Whether the words ask for the standard input. -/
def wantsInput (words : List String) : Bool :=
  match Arguments.ofWords words with
  | .ok a => a.fromInput && a.response.isNone
  | .error _ => false

end CommandLine
end PromptWeave
