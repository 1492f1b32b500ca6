import PromptWeave.Chat
import PromptWeave.Json.Reader

/-! Answers of the providers as completions.
An answer that reports an error has no completion, whatever else it holds. -/
namespace PromptWeave
namespace Provider
open Json

/-- What a provider reports. -/
def decodeReport (r : Raw) : Except Fault String := do
  (← Decode.record ["message"] r).required "message" Decode.string

/-- An answer: an error that is reported, or a completion. -/
structure Reply where
  report : Option String
  completion : Completion

/-! ### Answers with choices -/

structure Choice where
  content : Option String
  finishReason : Option String

def decodeChoice (r : Raw) : Except Fault Choice := do
  let fields ← Decode.record ["message", "finish_reason"] r
  let content ← fields.required "message" fun m => do
    (← Decode.record ["content"] m).optional "content" Decode.string
  return ⟨content, ← fields.optional "finish_reason" Decode.string⟩

/-- The first choice counts. -/
def decodeChoices (r : Raw) : Except Fault Reply := do
  let fields ← Decode.record ["choices", "error", "usage"] r
  let choices ← fields.optional "choices" (Decode.list decodeChoice)
  let report ← fields.optional "error" decodeReport
  let usage ← fields.optionalOrNone "usage" Usage.decode
  let first := choices.bind List.head?
  return ⟨report, {
    content := (first.bind (·.content)).getD ""
    usage := usage
    finishReason := first.bind (·.finishReason) }⟩

/-! ### Answers in blocks -/

/-- A block of an answer: a text, the input of a tool, or something else. -/
inductive Block
  | text (s : String)
  | toolInput (v : Json)
  | other

/-- The tag of an object among its fields, which may stand anywhere. -/
def tagOf (fields : List (Option String × Raw)) : Except Fault String :=
  match fields.filter (·.1 == some "type") with
  | [(_, r)] => Decode.string r
  | [] => .error (.missing "type")
  | _ => .error (.repeated "type")

/-- The form of a block by its tag; the rest is an object or, behind a tag that stands first, a
list of fields. -/
def decodeTagged (tag : String) (rest : Raw) : Except Fault Block := do
  match tag with
  | "text" => return .text (← (← Decode.record ["text"] rest).required "text" Decode.string)
  | "tool_use" =>
    let fields ← Decode.record ["name", "input"] rest
    let _ ← fields.required "name" Decode.string
    return .toolInput (← fields.required "input" Decode.value)
  | _ => match rest with
    | .arr (_ :: _) => throw .length
    | _ => return .other

/-- A block is read as a whole, so all its parts must have values. -/
def decodeBlock (r : Raw) : Except Fault Block := do
  if !r.sound then throw .outOfRange
  match r with
  | .obj fields => decodeTagged (← tagOf fields) (.obj (fields.filter (·.1 != some "type")))
  | .arr (tag :: rest) => decodeTagged (← Decode.string tag) (.arr rest)
  | _ => throw (.mismatch "a block")

def Block.text? : Block → Option String
  | .text s => some s
  | _ => none

def Block.input? : Block → Option Json
  | .toolInput v => some v
  | _ => none

/-- The first input of a tool counts, or else all texts together. -/
def contentOf (blocks : List Block) : String :=
  match blocks.findSome? Block.input? with
  | some v => v.compact
  | none => String.join (blocks.filterMap Block.text?)

def decodeUsage (names : List String) (r : Raw) : Except Fault (Option Usage) := do
  let fields ← Decode.record names r
  let counts ← names.mapM fun name => fields.optional name Decode.count
  return Usage.ofCounts counts[0]?.join counts[1]?.join counts[2]?.join

def decodeBlocks (r : Raw) : Except Fault Reply := do
  let fields ← Decode.record ["content", "usage", "stop_reason", "error"] r
  let blocks ← fields.withDefault "content" [] (Decode.list decodeBlock)
  let usage ← fields.optional "usage" (decodeUsage ["input_tokens", "output_tokens"])
  let stop ← fields.optional "stop_reason" Decode.string
  let report ← fields.optional "error" decodeReport
  return ⟨report, ⟨contentOf blocks, usage.join, stop⟩⟩

/-! ### Answers with candidates -/

def decodePart (r : Raw) : Except Fault String := do
  (← Decode.record ["text"] r).withDefault "text" "" Decode.string

def decodeContent (r : Raw) : Except Fault String := do
  let fields ← Decode.record ["parts"] r
  return String.join (← fields.withDefault "parts" [] (Decode.list decodePart))

def decodeCandidate (r : Raw) : Except Fault Choice := do
  let fields ← Decode.record ["content", "finishReason"] r
  return ⟨← fields.optional "content" decodeContent,
    ← fields.optional "finishReason" Decode.string⟩

/-- The first candidate counts. -/
def decodeCandidates (r : Raw) : Except Fault Reply := do
  let fields ← Decode.record ["candidates", "usageMetadata", "error"] r
  let candidates ← fields.withDefault "candidates" [] (Decode.list decodeCandidate)
  let usage ← fields.optional "usageMetadata"
    (decodeUsage ["promptTokenCount", "candidatesTokenCount", "totalTokenCount"])
  let report ← fields.optional "error" decodeReport
  let first := candidates.head?
  return ⟨report, {
    content := (first.bind (·.content)).getD ""
    usage := usage.join
    finishReason := first.bind (·.finishReason) }⟩

/-! ### All providers -/

def decodeReply : Provider → Decoder Reply
  | .openai => decodeChoices
  | .anthropic => decodeBlocks
  | .gemini => decodeCandidates

/-- The completion in the body of an answer. -/
def parseCompletion (p : Provider) (body : String) : Except Error Completion :=
  match Json.raw body >>= p.decodeReply with
  | .error fault => .error (.invalidResponse p (.malformed fault))
  | .ok reply => match reply.report with
    | some message => .error (.invalidResponse p (.reported message))
    | none => .ok reply.completion

end Provider
end PromptWeave
