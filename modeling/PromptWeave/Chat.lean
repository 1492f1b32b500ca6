import PromptWeave.Prompt

/-! Chat requests and completions that belong to no provider. -/
namespace PromptWeave
open Json

inductive Role
  | system
  | developer
  | user
  | assistant
deriving DecidableEq, Repr

namespace Role

def name : Role → String
  | .system => "system"
  | .developer => "developer"
  | .user => "user"
  | .assistant => "assistant"

def names : List (String × Role) :=
  [("system", .system), ("developer", .developer), ("user", .user), ("assistant", .assistant)]

def decode : Decoder Role := Decode.constant names

/-- Whether the role sets up the model and takes no turn in the conversation. -/
def isSystemLike : Role → Bool
  | .system | .developer => true
  | .user | .assistant => false

end Role

structure Message where
  role : Role
  content : String
  name : Option String
deriving DecidableEq

namespace Message

def ofText (role : Role) (content : String) : Message := ⟨role, content, none⟩

def encode (m : Message) : Json := .object [
  ("role", some (.str m.role.name)),
  ("content", some (.str m.content)),
  ("name", m.name.map Json.str)]

def decode (r : Raw) : Except Fault Message := do
  let fields ← Decode.record ["role", "content", "name"] r
  return {
    role := ← fields.required "role" Role.decode
    content := ← fields.required "content" Decode.string
    name := ← fields.optionalOrNone "name" Decode.string }

end Message

/-- A temperature in single format; what is too large for it is infinite. -/
inductive Temperature
  | finite (x : BinaryFloat)
  | infinite (negative : Bool)
deriving DecidableEq, Repr

namespace Temperature

def ofInt (i : Int) : Temperature :=
  match BinaryFloat.ofInt? .single i with
  | some x => .finite x
  | none => .infinite (decide (i < 0))

def ofFloat (x : BinaryFloat) : Temperature :=
  match x.convert .single with
  | some y => .finite y
  | none => .infinite x.negative

def decode : Decoder Temperature
  | .num (.int i) => .ok (ofInt i)
  | .num (.float x) => .ok (ofFloat x)
  | .faulty f => .error f
  | _ => .error (.mismatch "a number")

/-- As a JSON number; an infinite temperature has none. -/
def encode : Temperature → Json
  | .finite x => match x.convert .double with
    | some y => .num (.float y)
    | none => .null
  | .infinite _ => .null

/-- The JSON number with the fewest digits that the single format needs. -/
def shortChars : Temperature → List Char
  | .finite x => Shortest.text .single .single x
  | .infinite _ => Json.compactChars .null

end Temperature

inductive ResponseFormatType
  | jsonObject
  | jsonSchema
deriving DecidableEq, Repr

namespace ResponseFormatType

def name : ResponseFormatType → String
  | .jsonObject => "json_object"
  | .jsonSchema => "json_schema"

def names : List (String × ResponseFormatType) :=
  [("json_object", .jsonObject), ("json_schema", .jsonSchema)]

end ResponseFormatType

/-- The form in which a result is asked for. -/
structure ResponseFormat where
  type : ResponseFormatType
  jsonSchema : Option StructuredOutput
deriving DecidableEq

namespace ResponseFormat

def anyObject : ResponseFormat := ⟨.jsonObject, none⟩

def ofOutput (o : StructuredOutput) : ResponseFormat := ⟨.jsonSchema, some o⟩

def encode (f : ResponseFormat) : Json := .object [
  ("type", some (.str f.type.name)),
  ("json_schema", f.jsonSchema.map StructuredOutput.encode)]

def decode (r : Raw) : Except Fault ResponseFormat := do
  let fields ← Decode.record ["type", "json_schema"] r
  return {
    type := ← fields.required "type" (Decode.constant ResponseFormatType.names)
    jsonSchema := ← fields.optionalOrNone "json_schema" StructuredOutput.decode }

end ResponseFormat

structure ChatRequest where
  model : Option String
  messages : List Message
  maxTokens : Option Nat
  temperature : Option Temperature
  responseFormat : Option ResponseFormat
deriving DecidableEq

namespace ChatRequest

def ofMessages (messages : List Message) : ChatRequest := ⟨none, messages, none, none, none⟩

/-- The schema of the result, if one is asked for. -/
def schema? (r : ChatRequest) : Option StructuredOutput := r.responseFormat.bind (·.jsonSchema)

def fields (r : ChatRequest) : List (String × Option Json) := [
  ("model", r.model.map Json.str),
  ("messages", some (.arr (r.messages.map Message.encode))),
  ("max_tokens", r.maxTokens.map fun n => .num (.int n)),
  ("temperature", r.temperature.map Temperature.encode),
  ("response_format", r.responseFormat.map ResponseFormat.encode)]

def encode (r : ChatRequest) : Json := .object r.fields

/-- The text of a field as it is sent. -/
def wireField (r : ChatRequest) (name : String) (v : Json) : List Char :=
  match name, r.temperature with
  | "temperature", some t => t.shortChars
  | _, _ => v.compactChars

/-- The text that is sent, fields in their own order and the temperature in its shortest form. -/
def wire (r : ChatRequest) : String :=
  .ofList (compactObject (r.fields.filterMap fun (k, v) => v.map fun v => (k, r.wireField k v)))

def decode (r : Raw) : Except Fault ChatRequest := do
  let fields ← Decode.record ["model", "messages", "max_tokens", "temperature", "response_format"] r
  return {
    model := ← fields.optionalOrNone "model" Decode.string
    messages := ← fields.required "messages" (Decode.list Message.decode)
    maxTokens := ← fields.optionalOrNone "max_tokens" Decode.count
    temperature := ← fields.optionalOrNone "temperature" Temperature.decode
    responseFormat := ← fields.optionalOrNone "response_format" ResponseFormat.decode }

end ChatRequest

/-- Counts of tokens. -/
structure Usage where
  promptTokens : Option Nat
  completionTokens : Option Nat
  totalTokens : Option Nat
deriving DecidableEq

namespace Usage

def maxCount : Nat := Nat.pow 2 32 - 1

/-- Usage from single counts: the total is given or, where it fits, the sum. -/
def ofCounts (input output total : Option Nat) : Option Usage :=
  if input = none ∧ output = none ∧ total = none then none
  else
    let sum := do
      let a ← input
      let b ← output
      if a + b ≤ maxCount then return a + b else none
    some ⟨input, output, total <|> sum⟩

def encode (u : Usage) : Json := .object [
  ("prompt_tokens", u.promptTokens.map fun n => .num (.int n)),
  ("completion_tokens", u.completionTokens.map fun n => .num (.int n)),
  ("total_tokens", u.totalTokens.map fun n => .num (.int n))]

def decode (r : Raw) : Except Fault Usage := do
  let fields ← Decode.record ["prompt_tokens", "completion_tokens", "total_tokens"] r
  return {
    promptTokens := ← fields.optionalOrNone "prompt_tokens" Decode.count
    completionTokens := ← fields.optionalOrNone "completion_tokens" Decode.count
    totalTokens := ← fields.optionalOrNone "total_tokens" Decode.count }

end Usage

/-- What a model has answered. -/
structure Completion where
  content : String
  usage : Option Usage
  finishReason : Option String
deriving DecidableEq

namespace Completion

def encode (c : Completion) : Json := .object [
  ("content", some (.str c.content)),
  ("usage", c.usage.map Usage.encode),
  ("finish_reason", c.finishReason.map Json.str)]

def decode (r : Raw) : Except Fault Completion := do
  let fields ← Decode.record ["content", "usage", "finish_reason"] r
  return {
    content := ← fields.required "content" Decode.string
    usage := ← fields.optionalOrNone "usage" Usage.decode
    finishReason := ← fields.optionalOrNone "finish_reason" Decode.string }

end Completion
end PromptWeave
