import PromptWeave.Chat
import PromptWeave.Schema.Adaptation

/-! Chat requests in the form that each provider takes.
Where a request has a place of its own for what sets up the model, system and developer messages
are joined there. -/
namespace PromptWeave

/-- The messages that set up the model as one text, if they say anything. -/
def ChatRequest.systemText (r : ChatRequest) : Option String :=
  let texts := ((r.messages.filter (·.role.isSystemLike)).map Message.content).filter (· ≠ "")
  if texts.isEmpty then none else some (joinWith "\n\n" texts)

/-- The messages of the conversation. -/
def ChatRequest.turns (r : ChatRequest) : List Message :=
  r.messages.filter fun m => !m.role.isSystemLike

namespace Provider

/-- A tool by whose input a model gives its result. -/
structure Tool where
  name : String
  description : Option String
  inputSchema : Json
deriving DecidableEq

/-- A request with a tool that the model has to use for a structured result. -/
structure ToolRequest where
  model : Option String
  system : Option String
  messages : List (Role × String)
  maxTokens : Nat
  temperature : Option Temperature
  tool : Option Tool
deriving DecidableEq

/-- A text and who says it. -/
structure Content where
  role : Option String
  text : String
deriving DecidableEq

structure GenerationConfig where
  maxOutputTokens : Option Nat
  temperature : Option Temperature
  responseSchema : Option Json
deriving DecidableEq

/-- A request that keeps what was said before apart from the last message. -/
structure SessionRequest where
  model : Option String
  inSession : Bool
  system : Option Content
  history : List Content
  message : Content
  config : GenerationConfig
deriving DecidableEq

inductive Request
  | openai (r : ChatRequest)
  | anthropic (r : ToolRequest)
  | gemini (r : SessionRequest)
deriving DecidableEq

/-! ### Requests with a tool -/

def defaultMaxTokens : Nat := 4096

def maxToolName : Nat := 64

def isToolNameChar (c : Char) : Bool := c.isAlphanum || c == '_' || c == '-'

/-- Tool names have few characters to choose from, and at least one and at most 64 of them. -/
def toolName (name : String) : String :=
  let cleaned := (name.toList.map fun c => if isToolNameChar c then c else '_').take maxToolName
  if cleaned.isEmpty then "response" else String.ofList cleaned

def toolOf (o : StructuredOutput) : Except Error Tool := do
  return ⟨toolName o.name, o.description, ← Schema.adapt .anthropic o.schema⟩

/-- Turns are never empty. -/
def toolMessages (r : ChatRequest) : List (Role × String) :=
  match r.turns.map fun m => (m.role, m.content) with
  | [] => [(.user, "")]
  | turns => turns

def toolRequest (r : ChatRequest) : Except Error ToolRequest := do
  let tool ← r.schema?.mapM toolOf
  return {
    model := r.model
    system := r.systemText
    messages := toolMessages r
    maxTokens := r.maxTokens.getD defaultMaxTokens
    temperature := r.temperature
    tool := tool }

def Tool.encode (t : Tool) : Json := .object [
  ("name", some (.str t.name)),
  ("description", t.description.map Json.str),
  ("input_schema", some t.inputSchema)]

def Tool.encodeChoice (t : Tool) : Json := .obj [("name", .str t.name), ("type", .str "tool")]

def ToolRequest.encode (r : ToolRequest) : Json := .object [
  ("model", r.model.map Json.str),
  ("system", r.system.map Json.str),
  ("messages", some (.arr (r.messages.map fun (role, content) =>
    .obj [("role", .str role.name), ("content", .str content)]))),
  ("max_tokens", some (.num (.int r.maxTokens))),
  ("temperature", r.temperature.map Temperature.encode),
  ("tools", r.tool.map fun t => .arr [t.encode]),
  ("tool_choice", r.tool.map Tool.encodeChoice)]

/-! ### Requests of a session -/

def speaker : Role → String
  | .assistant => "model"
  | _ => "user"

/-- The turns before the last one, and the last one. -/
def splitLast (r : ChatRequest) : List Content × Content :=
  let contents := r.turns.map fun m => Content.mk (some (speaker m.role)) m.content
  (contents.dropLast, contents.getLast?.getD ⟨some "user", ""⟩)

def sessionRequest (r : ChatRequest) : Except Error SessionRequest := do
  let schema ← r.schema?.mapM fun o => Schema.adapt .gemini o.schema
  return {
    model := r.model
    inSession := decide (1 < r.turns.length)
    system := r.systemText.map fun s => ⟨none, s⟩
    history := (splitLast r).1
    message := (splitLast r).2
    config := ⟨r.maxTokens, r.temperature, schema⟩ }

def Content.encode (c : Content) : Json := .object [
  ("role", c.role.map Json.str),
  ("parts", some (.arr [.obj [("text", .str c.text)]]))]

def GenerationConfig.isEmpty (c : GenerationConfig) : Bool :=
  c.maxOutputTokens.isNone && c.temperature.isNone && c.responseSchema.isNone

def GenerationConfig.encode (c : GenerationConfig) : Json := .object [
  ("max_output_tokens", c.maxOutputTokens.map fun n => .num (.int n)),
  ("temperature", c.temperature.map Temperature.encode),
  ("response_mime_type", c.responseSchema.map fun _ => .str "application/json"),
  ("response_schema", c.responseSchema)]

def SessionRequest.encode (r : SessionRequest) : Json := .object [
  ("model", r.model.map Json.str),
  ("mode", some (.str (if r.inSession then "send_message" else "generate_content"))),
  ("system_instruction", r.system.map Content.encode),
  ("history", if r.history.isEmpty then none else some (.arr (r.history.map Content.encode))),
  ("message", some r.message.encode),
  ("generation_config", if r.config.isEmpty then none else some r.config.encode)]

/-! ### All providers -/

/-- The schema as the provider takes it, in its place in the request. -/
def plainRequest (r : ChatRequest) : Except Error ChatRequest := do
  match r.responseFormat with
  | some ⟨type, some o⟩ =>
    let schema ← Schema.adapt .openai o.schema
    return { r with responseFormat := some ⟨type, some { o with schema := schema }⟩ }
  | _ => return r

/-- A chat request in the form that a provider takes. -/
def shape (p : Provider) (r : ChatRequest) : Except Error Request :=
  match p with
  | .openai => return .openai (← plainRequest r)
  | .anthropic => return .anthropic (← toolRequest r)
  | .gemini => return .gemini (← sessionRequest r)

namespace Request

def provider : Request → Provider
  | .openai _ => .openai
  | .anthropic _ => .anthropic
  | .gemini _ => .gemini

/-- The payload, its keys in order. -/
def encode : Request → Json
  | .openai r => r.encode.sortKeys
  | .anthropic r => r.encode.sortKeys
  | .gemini r => r.encode.sortKeys

end Request
end Provider
end PromptWeave
