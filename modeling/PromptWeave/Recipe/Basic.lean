import PromptWeave.Files.Override
import PromptWeave.Json.Reader
import PromptWeave.Prompt

/-! Recipes: prompts described piece by piece.
A recipe lists entries for each area. It can build on a template, which is a recipe too: the
entries of the template come first, and for all else the recipe on top decides. -/
namespace PromptWeave
open Json

inductive RecipeEntry
  | text (text : String)
  | path (p : Path)
  | directories (ps : List Path)
  | inline (text : String) (title : Option String) (weight : Option Weight)
deriving DecidableEq

structure Recipe where
  template : Option String
  base : Option Path
  parameters : Parameters
  entries : Area → List RecipeEntry
  overrides : Option Overrides
  structuredOutput : Option StructuredOutput

namespace RecipeEntry

def mapPaths (f : Path → Path) : RecipeEntry → RecipeEntry
  | .path p => .path (f p)
  | .directories ps => .directories (ps.map f)
  | e => e

def encode : RecipeEntry → Json
  | .text t => .str t
  | .path p => .obj [("path", p.encode)]
  | .directories ps => .obj [("directories", .arr (ps.map Path.encode))]
  | .inline t title weight => .object [
    ("content", some (.str t)),
    ("title", title.map Json.str),
    ("weight", weight.map fun w => .num (.float w))]

def decodePath (r : Raw) : Except Fault RecipeEntry := do
  let fields ← Record.ofObject id ["path"] r
  return .path (← fields.required "path" Path.decode)

def decodeDirectories (r : Raw) : Except Fault RecipeEntry := do
  let fields ← Record.ofObject id ["directories"] r
  return .directories (← fields.required "directories" (Decode.list Path.decode))

def decodeInline (r : Raw) : Except Fault RecipeEntry := do
  let fields ← Record.ofObject id ["content", "title", "weight"] r
  return .inline (← fields.required "content" Decode.string)
    (← fields.optionalOrNone "title" Decode.string)
    (← fields.optionalOrNone "weight" Decode.real)

/-- The first form that fits counts. -/
def decodeForms (r : Raw) : Except Fault RecipeEntry :=
  match r with
  | .str s => .ok (.text s)
  | r => decodePath r <|> decodeDirectories r <|> decodeInline r

/-- One entry or a list of entries. -/
def decodeSome (r : Raw) : Except Fault (List RecipeEntry) :=
  if !r.sound then .error .outOfRange
  else match r with
    | .arr items => Decode.each decodeForms items
    | r => do return [← decodeForms r]

end RecipeEntry

namespace Recipe

def empty : Recipe := ⟨none, none, .empty, fun _ => [], none, none⟩

instance : Inhabited Recipe := ⟨empty⟩

/-- Puts entries behind those that an area has. -/
def addEntries (r : Recipe) (a : Area) (es : List RecipeEntry) : Recipe :=
  { r with entries := fun b => if b = a then r.entries b ++ es else r.entries b }

/-- A relative path as seen from `base`. -/
def rebase (base p : Path) : Path := if p.isAbsolute then p else base.join p

/-- Sees the relative paths of the recipe from its base, if it has one. -/
def rebased (r : Recipe) : Recipe :=
  match r.base with
  | none => r
  | some base => { r with
      entries := fun a => (r.entries a).map (RecipeEntry.mapPaths (rebase base))
      overrides := r.overrides.map fun o =>
        { o with directories := o.directories.map (rebase base) } }

/-- The recipe on top of a template. -/
def mergedOnto (r below : Recipe) : Recipe where
  template := below.template
  base := r.base <|> below.base
  parameters := r.parameters.onto below.parameters
  entries := fun a => below.entries a ++ r.entries a
  overrides := r.overrides <|> below.overrides
  structuredOutput := r.structuredOutput <|> below.structuredOutput

/-- The areas of a recipe in the order in which they are filled. -/
def areas : List Area := Area.all

def fieldNames : List String :=
  ["template", "base_path", "parameters"] ++ areas.map Area.name ++
    ["overrides", "structured_output"]

def encode (r : Recipe) : Json := .object (
  [("template", r.template.map Json.str),
    ("base_path", r.base.map Path.encode),
    ("parameters", some (Parameters.encode r.parameters))] ++
  areas.map (fun a => (a.name, some (.arr ((r.entries a).map RecipeEntry.encode)))) ++
  [("overrides", r.overrides.map Overrides.encode),
    ("structured_output", r.structuredOutput.map StructuredOutput.encode)])

/-- The entries of the areas that are given. -/
def decodeEntries (fields : Record) : List Area → Except Fault (Area → List RecipeEntry)
  | [] => .ok fun _ => []
  | a :: more => do
    let es ← fields.withDefault a.name [] RecipeEntry.decodeSome
    let rest ← decodeEntries fields more
    return fun b => if b = a then es else rest b

/-- Every field may be left out. -/
def decode (r : Raw) : Except Fault Recipe := do
  let fields ← Decode.record fieldNames r
  return {
    template := ← fields.optionalOrNone "template" Decode.string
    base := ← fields.optionalOrNone "base_path" Path.decode
    parameters := ← fields.withDefault "parameters" .empty Decode.dict
    entries := ← decodeEntries fields areas
    overrides := ← fields.optionalOrNone "overrides" Overrides.decode
    structuredOutput := ← fields.optionalOrNone "structured_output" StructuredOutput.decode }

def read (text : String) : Except Fault Recipe := Json.raw text >>= decode

def ofText (text : String) : Except Error Recipe :=
  (read text).mapError fun f => .config (.badRecipe f)

/-- The base of a recipe that is read from a file: its directory, or what it says, seen from there. -/
def fileBase (p : Path) (base : Option Path) : Path :=
  let directory := p.parent.getD ⟨""⟩
  match base with
  | some base => rebase directory base
  | none => directory

end Recipe
end PromptWeave
