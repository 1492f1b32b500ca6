import PromptWeave.Error
import PromptWeave.Json.Reader
import PromptWeave.Prompt
import PromptWeave.Schema.Violation

/-! Results that were asked for by a schema.
Which schemas can be used and what a schema allows is up to the validator. -/
namespace PromptWeave
namespace StructuredOutput

variable (validator : Schema.Validator)

/-- Reads a result and holds it against the schema, unless the schema cannot be used. -/
def validate (o : StructuredOutput) (content : String) : Except Error Json :=
  match Json.read content with
  | .error fault => .error (.structuredOutput (.notJson o.name fault))
  | .ok value => match validator o.schema with
    | none => .ok value
    | some check => match check value with
      | [] => .ok value
      | fs => .error (.structuredOutput (.invalid o.name (fs.map Schema.Finding.message)))

/-- Reads a valid result as a value of a type. -/
def parse {α : Type} (o : StructuredOutput) (d : Json.Decoder α) (content : String) :
    Except Error α := do
  let value ← o.validate validator content
  match d (.ofJson value) with
  | .ok a => return a
  | .error fault => throw (.json fault)

end StructuredOutput
end PromptWeave
