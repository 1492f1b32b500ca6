import PromptWeave.Section.Codec

/-! Prompts: one section for each area.
The instructions are always there; another area comes into being when something is put into it. -/
namespace PromptWeave
open Json

inductive Area
  | persona
  | instructions
  | constraints
  | tone
  | reasoning
  | responseFormat
  | safeguards
  | examples
  | context
  | content
deriving DecidableEq, Repr

namespace Area

/-- The areas of the user message, in the order in which they are written. -/
def userOrder : List Area :=
  [.instructions, .constraints, .tone, .reasoning, .responseFormat, .safeguards, .examples,
    .context, .content]

def all : List Area := .persona :: userOrder

theorem mem_all (a : Area) : a ∈ all := by cases a <;> decide

def name : Area → String
  | .persona => "persona"
  | .instructions => "instructions"
  | .constraints => "constraints"
  | .tone => "tone"
  | .reasoning => "reasoning"
  | .responseFormat => "response_format"
  | .safeguards => "safeguards"
  | .examples => "examples"
  | .context => "context"
  | .content => "content"

/-- The heading of an area whose section has no title of its own. -/
def label : Area → String
  | .persona => "Persona"
  | .instructions => "Instructions"
  | .constraints => "Constraints"
  | .tone => "Tone"
  | .reasoning => "Reasoning"
  | .responseFormat => "Response Format"
  | .safeguards => "Safeguards"
  | .examples => "Examples"
  | .context => "Context"
  | .content => "Content"

/-- What texts that are added to an area become. -/
def kind : Area → Kind
  | .persona => .trait
  | .context => .context
  | .content | .examples => .content
  | _ => .instruction

def names : List (String × Area) := all.map fun a => (a.name, a)

def decode : Decoder Area := Decode.constant names

end Area

/-- A request for a result in JSON that fits a schema. -/
structure StructuredOutput where
  name : String
  description : Option String
  schema : Json
  strict : Option Bool
deriving DecidableEq

namespace StructuredOutput

def fieldNames : List String := ["name", "description", "schema", "strict"]

def encode (o : StructuredOutput) : Json := .object [
  ("name", some (.str o.name)),
  ("description", o.description.map Json.str),
  ("schema", some o.schema),
  ("strict", o.strict.map Json.bool)]

def decode (r : Raw) : Except Fault StructuredOutput := do
  let fields ← Decode.record fieldNames r
  return {
    name := ← fields.required "name" Decode.string
    description := ← fields.optionalOrNone "description" Decode.string
    schema := ← fields.required "schema" Decode.value
    strict := ← fields.optionalOrNone "strict" Decode.bool }

end StructuredOutput

structure Prompt where
  persona : Option Section
  instructions : Section
  contents : Option Section
  contexts : Option Section
  constraints : Option Section
  tone : Option Section
  examples : Option Section
  reasoning : Option Section
  responseFormat : Option Section
  safeguards : Option Section
  structuredOutput : Option StructuredOutput
deriving DecidableEq

namespace Prompt

def ofInstructions (s : Section) : Prompt :=
  ⟨none, s, none, none, none, none, none, none, none, none, none⟩

def empty : Prompt := ofInstructions (Section.empty .instruction)

instance : Inhabited Prompt := ⟨empty⟩

def section? (p : Prompt) : Area → Option Section
  | .persona => p.persona
  | .instructions => some p.instructions
  | .constraints => p.constraints
  | .tone => p.tone
  | .reasoning => p.reasoning
  | .responseFormat => p.responseFormat
  | .safeguards => p.safeguards
  | .examples => p.examples
  | .context => p.contexts
  | .content => p.contents

def withSection (p : Prompt) (s : Section) : Area → Prompt
  | .persona => { p with persona := some s }
  | .instructions => { p with instructions := s }
  | .constraints => { p with constraints := some s }
  | .tone => { p with tone := some s }
  | .reasoning => { p with reasoning := some s }
  | .responseFormat => { p with responseFormat := some s }
  | .safeguards => { p with safeguards := some s }
  | .examples => { p with examples := some s }
  | .context => { p with contexts := some s }
  | .content => { p with contents := some s }

@[simp] theorem section?_withSection (p : Prompt) (s : Section) (a b : Area) :
    (p.withSection s a).section? b = if a = b then some s else p.section? b := by
  cases a <;> cases b <;> rfl

/-- The section of an area, an empty one if there is none. -/
def sectionOrNew (p : Prompt) (a : Area) : Section := (p.section? a).getD (Section.empty a.kind)

/-- Changes the section of an area, which comes into being if need be. -/
def updateSection (p : Prompt) (a : Area) (f : Section → Section) : Prompt :=
  p.withSection (f (p.sectionOrNew a)) a

def fieldNames : List String :=
  ["persona", "instructions", "contents", "contexts", "constraints", "tone", "examples",
    "reasoning", "response_format", "safeguards", "structured_output"]

def encode (p : Prompt) : Json := .object [
  ("persona", p.persona.map Section.encode),
  ("instructions", some p.instructions.encode),
  ("contents", p.contents.map Section.encode),
  ("contexts", p.contexts.map Section.encode),
  ("constraints", p.constraints.map Section.encode),
  ("tone", p.tone.map Section.encode),
  ("examples", p.examples.map Section.encode),
  ("reasoning", p.reasoning.map Section.encode),
  ("response_format", p.responseFormat.map Section.encode),
  ("safeguards", p.safeguards.map Section.encode),
  ("structured_output", p.structuredOutput.map StructuredOutput.encode)]

def decode (r : Raw) : Except Fault Prompt := do
  let fields ← Decode.record fieldNames r
  return {
    persona := ← fields.optionalOrNone "persona" Section.decode
    instructions := ← fields.required "instructions" Section.decode
    contents := ← fields.optionalOrNone "contents" Section.decode
    contexts := ← fields.optionalOrNone "contexts" Section.decode
    constraints := ← fields.optionalOrNone "constraints" Section.decode
    tone := ← fields.optionalOrNone "tone" Section.decode
    examples := ← fields.optionalOrNone "examples" Section.decode
    reasoning := ← fields.optionalOrNone "reasoning" Section.decode
    responseFormat := ← fields.optionalOrNone "response_format" Section.decode
    safeguards := ← fields.optionalOrNone "safeguards" Section.decode
    structuredOutput := ← fields.optionalOrNone "structured_output" StructuredOutput.decode }

end Prompt
end PromptWeave
