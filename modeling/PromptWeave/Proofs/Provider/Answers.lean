import Mathlib
import PromptWeave.Proofs.Json.Records
import PromptWeave.Provider.Response
import PromptWeave.Schema.Output
import PromptWeave.Schema.Validation

/-! Structured results in the answers of all providers.
Each provider wraps a result in a form of its own: as a text, as the parts of a text, or as the
input of a tool. The completion holds the compact text of the result in each case. -/
namespace PromptWeave
namespace Provider
open Json

/-! ### What all answers have -/

def IsReport (message : String) : Raw → Prop :=
  IsObject ["message"] fun fields => Given IsText "message" fields message

theorem reads_report : Reads decodeReport IsReport := by
  intro message r h
  obtain ⟨record, fields, hread, hreflects, hmessage⟩ := h.record
  have hmessage := hreflects.required (by simp) reads_string hmessage
  exact bind_eq_ok.mpr ⟨record, hread, hmessage⟩

def IsUsage (names : List String) (usage : Option Usage) (r : Raw) : Prop :=
  ∃ counts, usage = Usage.ofCounts counts[0]?.join counts[1]?.join counts[2]?.join ∧
    IsObject names (fun fields =>
      List.Forall₂ (fun name count => MayBe IsCount name fields count) names counts) r

theorem reads_usage (names : List String) : Reads (decodeUsage names) (IsUsage names) := by
  rintro usage r ⟨counts, rfl, h⟩
  obtain ⟨record, fields, hread, hreflects, hcounts⟩ := h.record
  have hall : names.mapM (fun name => record.optional name Decode.count) = .ok counts :=
    mapM_eq_ok.mpr (forall₂_imp_mem hcounts fun name hname count hcount =>
      hreflects.optional hname reads_count hcount)
  exact bind_eq_ok.mpr ⟨record, hread, bind_eq_ok.mpr ⟨counts, hall, rfl⟩⟩

/-- Usage with the names that completions have for it. -/
def IsTotals (usage : Usage) : Raw → Prop :=
  IsObject ["prompt_tokens", "completion_tokens", "total_tokens"] fun fields =>
    MayBe IsCount "prompt_tokens" fields usage.promptTokens ∧
    MayBe IsCount "completion_tokens" fields usage.completionTokens ∧
    MayBe IsCount "total_tokens" fields usage.totalTokens

theorem reads_totals : Reads Usage.decode IsTotals := by
  intro usage r h
  obtain ⟨record, fields, hread, hreflects, hprompt, hcompletion, htotal⟩ := h.record
  have hprompt := hreflects.optionalOrNone (by simp) reads_count hprompt
  have hcompletion := hreflects.optionalOrNone (by simp) reads_count hcompletion
  have htotal := hreflects.optionalOrNone (by simp) reads_count htotal
  exact bind_eq_ok.mpr ⟨record, hread, bind_eq_ok.mpr ⟨_, hprompt,
    bind_eq_ok.mpr ⟨_, hcompletion, bind_eq_ok.mpr ⟨_, htotal, rfl⟩⟩⟩⟩

/-! ### Answers with choices -/

def IsMessage (content : Option String) : Raw → Prop :=
  IsObject ["content"] fun fields => MayBe IsText "content" fields content

def IsChoice (choice : Choice) : Raw → Prop :=
  IsObject ["message", "finish_reason"] fun fields =>
    Given IsMessage "message" fields choice.content ∧
    MayBe IsText "finish_reason" fields choice.finishReason

def IsChoices (choices : List Choice) (report : Option String) (usage : Option Usage) :
    Raw → Prop :=
  IsObject ["choices", "error", "usage"] fun fields =>
    MayBe (Each IsChoice) "choices" fields (some choices) ∧ MayBe IsReport "error" fields report ∧
    MayBe IsTotals "usage" fields usage

theorem reads_message : Reads (fun m => do
    (← Decode.record ["content"] m).optional "content" Decode.string) IsMessage := by
  intro content r h
  obtain ⟨record, fields, hread, hreflects, hcontent⟩ := h.record
  have hcontent := hreflects.optional (by simp) reads_string hcontent
  exact bind_eq_ok.mpr ⟨record, hread, hcontent⟩

theorem reads_choice : Reads decodeChoice IsChoice := by
  intro choice r h
  obtain ⟨record, fields, hread, hreflects, hmessage, hfinish⟩ := h.record
  have hmessage := hreflects.required (by simp) reads_message hmessage
  have hfinish := hreflects.optional (by simp) reads_string hfinish
  exact bind_eq_ok.mpr ⟨record, hread, bind_eq_ok.mpr ⟨_, hmessage,
    bind_eq_ok.mpr ⟨_, hfinish, rfl⟩⟩⟩

theorem decodeChoices_of_isChoices {choices : List Choice} {report : Option String}
    {usage : Option Usage} {r : Raw} (h : IsChoices choices report usage r) :
    decodeChoices r = .ok ⟨report, {
      content := (choices.head?.bind (·.content)).getD ""
      usage := usage
      finishReason := choices.head?.bind (·.finishReason) }⟩ := by
  obtain ⟨record, fields, hread, hreflects, hchoices, hreport, husage⟩ := h.record
  have hchoices := hreflects.optional (by simp) (reads_list reads_choice) hchoices
  have hreport := hreflects.optional (by simp) reads_report hreport
  have husage := hreflects.optionalOrNone (by simp) reads_totals husage
  exact bind_eq_ok.mpr ⟨record, hread, bind_eq_ok.mpr ⟨_, hchoices, bind_eq_ok.mpr ⟨_, hreport,
    bind_eq_ok.mpr ⟨_, husage, rfl⟩⟩⟩⟩

/-! ### Answers with candidates -/

/-- A part; one without a text counts as empty. -/
def IsPart (text : String) : Raw → Prop :=
  IsObject ["text"] fun fields =>
    OrDefault "" IsText "text" fields text

def IsContent (text : String) : Raw → Prop :=
  IsObject ["parts"] fun fields => ∃ texts, text = String.join texts ∧
    OrDefault [] (Each IsPart) "parts" fields texts

def IsCandidate (candidate : Choice) : Raw → Prop :=
  IsObject ["content", "finishReason"] fun fields =>
    MayBe IsContent "content" fields candidate.content ∧
    MayBe IsText "finishReason" fields candidate.finishReason

def IsCandidates (candidates : List Choice) (report : Option String)
    (usage : Option (Option Usage)) : Raw → Prop :=
  IsObject ["candidates", "usageMetadata", "error"] fun fields =>
    OrDefault [] (Each IsCandidate) "candidates" fields candidates ∧
    MayBe IsReport "error" fields report ∧
    MayBe (IsUsage ["promptTokenCount", "candidatesTokenCount", "totalTokenCount"])
      "usageMetadata" fields usage

theorem reads_part : Reads decodePart IsPart := by
  intro text r h
  obtain ⟨record, fields, hread, hreflects, htext⟩ := h.record
  have htext := hreflects.withDefault (by simp) reads_string htext
  exact bind_eq_ok.mpr ⟨record, hread, htext⟩

theorem reads_content : Reads decodeContent IsContent := by
  intro text r h
  obtain ⟨record, fields, hread, hreflects, texts, rfl, htexts⟩ := h.record
  have hparts := hreflects.withDefault (by simp) (reads_list reads_part) htexts
  exact bind_eq_ok.mpr ⟨record, hread, bind_eq_ok.mpr ⟨_, hparts, rfl⟩⟩

theorem reads_candidate : Reads decodeCandidate IsCandidate := by
  intro candidate r h
  obtain ⟨record, fields, hread, hreflects, hcontent, hfinish⟩ := h.record
  have hcontent := hreflects.optional (by simp) reads_content hcontent
  have hfinish := hreflects.optional (by simp) reads_string hfinish
  exact bind_eq_ok.mpr ⟨record, hread, bind_eq_ok.mpr ⟨_, hcontent,
    bind_eq_ok.mpr ⟨_, hfinish, rfl⟩⟩⟩

theorem decodeCandidates_of_isCandidates {candidates : List Choice} {report : Option String}
    {usage : Option (Option Usage)} {r : Raw} (h : IsCandidates candidates report usage r) :
    decodeCandidates r = .ok ⟨report, {
      content := (candidates.head?.bind (·.content)).getD ""
      usage := usage.join
      finishReason := candidates.head?.bind (·.finishReason) }⟩ := by
  obtain ⟨record, fields, hread, hreflects, hcandidates, hreport, husage⟩ := h.record
  have hcandidates := hreflects.withDefault (by simp) (reads_list reads_candidate) hcandidates
  have hreport := hreflects.optional (by simp) reads_report hreport
  have husage := hreflects.optional (by simp) (reads_usage _) husage
  exact bind_eq_ok.mpr ⟨record, hread, bind_eq_ok.mpr ⟨_, hcandidates, bind_eq_ok.mpr ⟨_, husage,
    bind_eq_ok.mpr ⟨_, hreport, rfl⟩⟩⟩⟩

/-! ### Answers in blocks -/

def Tagged (tag : String) (rest : List (Option String × Raw)) (r : Raw) : Prop :=
  ∃ fields, r = .obj fields ∧ r.sound = true ∧ Given IsText "type" fields tag ∧
    rest = fields.filter fun f => f.1 != some "type"

def IsBlock (block : Block) (r : Raw) : Prop :=
  ∃ tag rest, Tagged tag rest r ∧ match block with
    | .text s => tag = "text" ∧ IsRecord ["text"] rest ∧ Given IsText "text" rest s
    | .toolInput v => tag = "tool_use" ∧ IsRecord ["name", "input"] rest ∧
      (∃ name, Given IsText "name" rest name) ∧ Given IsValue "input" rest v
    | .other => tag ≠ "text" ∧ tag ≠ "tool_use"

def IsBlocks (blocks : List Block) (report : Option String) (usage : Option (Option Usage))
    (stop : Option String) : Raw → Prop :=
  IsObject ["content", "usage", "stop_reason", "error"] fun fields =>
    OrDefault [] (Each IsBlock) "content" fields blocks ∧
    MayBe (IsUsage ["input_tokens", "output_tokens"]) "usage" fields usage ∧
    MayBe IsText "stop_reason" fields stop ∧ MayBe IsReport "error" fields report

theorem decodeBlock_of_tagged {tag : String} {rest : List (Option String × Raw)} {r : Raw}
    (h : Tagged tag rest r) : decodeBlock r = decodeTagged tag (.obj rest) := by
  obtain ⟨fields, rfl, hsound, ⟨r, hr, rfl⟩, rfl⟩ := h
  have htag : tagOf fields = .ok tag := by
    obtain ⟨f, hf, hsecond⟩ := List.map_eq_singleton_iff.mp hr
    obtain ⟨key, value⟩ := f
    cases hsecond
    rw [tagOf, hf]
    rfl
  rw [decodeBlock, hsound]
  simp only [htag, bind, Except.bind]
  rfl

theorem reads_block : Reads decodeBlock IsBlock := by
  rintro block r ⟨tag, rest, htagged, hblock⟩
  rw [decodeBlock_of_tagged htagged]
  cases block with
  | text s =>
    obtain ⟨rfl, hrecord, htext⟩ := hblock
    obtain ⟨record, hread, hreflects⟩ := record_of_isRecord hrecord
    have htext := hreflects.required (by simp) reads_string htext
    exact bind_eq_ok.mpr ⟨record, hread, bind_eq_ok.mpr ⟨s, htext, rfl⟩⟩
  | toolInput v =>
    obtain ⟨rfl, hrecord, ⟨name, hname⟩, hinput⟩ := hblock
    obtain ⟨record, hread, hreflects⟩ := record_of_isRecord hrecord
    have hname := hreflects.required (by simp) reads_string hname
    have hinput := hreflects.required (by simp) reads_value hinput
    exact bind_eq_ok.mpr ⟨record, hread, bind_eq_ok.mpr ⟨name, hname,
      bind_eq_ok.mpr ⟨v, hinput, rfl⟩⟩⟩
  | other =>
    unfold decodeTagged
    split
    next => exact absurd rfl hblock.1
    next => exact absurd rfl hblock.2
    next => rfl

theorem decodeBlocks_of_isBlocks {blocks : List Block} {report : Option String}
    {usage : Option (Option Usage)} {stop : Option String} {r : Raw}
    (h : IsBlocks blocks report usage stop r) :
    decodeBlocks r = .ok ⟨report, ⟨contentOf blocks, usage.join, stop⟩⟩ := by
  obtain ⟨record, fields, hread, hreflects, hblocks, husage, hstop, hreport⟩ := h.record
  have hblocks := hreflects.withDefault (by simp) (reads_list reads_block) hblocks
  have husage := hreflects.optional (by simp) (reads_usage _) husage
  have hstop := hreflects.optional (by simp) reads_string hstop
  have hreport := hreflects.optional (by simp) reads_report hreport
  exact bind_eq_ok.mpr ⟨record, hread, bind_eq_ok.mpr ⟨_, hblocks, bind_eq_ok.mpr ⟨_, husage,
    bind_eq_ok.mpr ⟨_, hstop, bind_eq_ok.mpr ⟨_, hreport, rfl⟩⟩⟩⟩⟩

/-- The input of the first tool is the content, whatever texts and other blocks stand around. -/
theorem contentOf_tool {before after : List Block} (v : Json)
    (h : ∀ b ∈ before, b.input? = none) :
    contentOf (before ++ .toolInput v :: after) = v.compact := by
  have hfirst : (before ++ .toolInput v :: after).findSome? Block.input? = some v := by
    rw [List.findSome?_append, List.findSome?_eq_none_iff.mpr h]
    rfl
  rw [contentOf, hfirst]

/-! ### All providers -/

/-- An answer of a provider that carries a result and reports no error: as the content of the first
choice, as that of the first candidate, or as the input of the first tool. -/
def Carries (p : Provider) (v : Json) (r : Raw) : Prop :=
  match p with
  | .openai => ∃ first more usage, first.content = some v.compact ∧
      IsChoices (first :: more) none usage r
  | .gemini => ∃ first more usage, first.content = some v.compact ∧
      IsCandidates (first :: more) none usage r
  | .anthropic => ∃ before after usage stop, (∀ b ∈ before, b.input? = none) ∧
      IsBlocks (before ++ .toolInput v :: after) none usage stop r

theorem decodeReply_of_carries {p : Provider} {v : Json} {r : Raw} (h : p.Carries v r) :
    ∃ completion, p.decodeReply r = .ok ⟨none, completion⟩ ∧ completion.content = v.compact := by
  cases p with
  | openai =>
    obtain ⟨first, more, usage, hcontent, hchoices⟩ := h
    exact ⟨_, decodeChoices_of_isChoices hchoices, by simp [hcontent]⟩
  | gemini =>
    obtain ⟨first, more, usage, hcontent, hcandidates⟩ := h
    exact ⟨_, decodeCandidates_of_isCandidates hcandidates, by simp [hcontent]⟩
  | anthropic =>
    obtain ⟨before, after, usage, stop, hbefore, hblocks⟩ := h
    exact ⟨_, decodeBlocks_of_isBlocks hblocks, contentOf_tool v hbefore⟩

theorem validate_of_read {validator : Schema.Validator} {o : StructuredOutput} {v : Json}
    (hback : Json.read v.compact = .ok v)
    (haccepted : ∃ w, o.validate validator v.compact = .ok w) :
    o.validate validator v.compact = .ok v := by
  obtain ⟨w, hw⟩ := haccepted
  simp only [StructuredOutput.validate, hback] at hw ⊢
  cases hcheck : validator o.schema with
  | none => rfl
  | some check =>
    simp only [hcheck] at hw ⊢
    cases hfindings : check v with
    | nil => rfl
    | cons f fs =>
      rw [hfindings] at hw
      cases hw

/-- A result that is read back from its text, and whose text the validator accepts, comes back from
the answer of every provider, whatever the validator is. -/
theorem result_survives {validator : Schema.Validator} {o : StructuredOutput} {v : Json}
    {p : Provider} {body : String} {r : Raw} (hback : Json.read v.compact = .ok v)
    (haccepted : ∃ w, o.validate validator v.compact = .ok w) (hbody : Json.raw body = .ok r)
    (h : p.Carries v r) :
    ∃ completion, parseCompletion p body = .ok completion ∧
      o.validate validator completion.content = .ok v := by
  obtain ⟨completion, hreply, hcontent⟩ := decodeReply_of_carries h
  have hread : (Json.raw body >>= p.decodeReply) = .ok ⟨none, completion⟩ :=
    bind_eq_ok.mpr ⟨r, hbody, hreply⟩
  refine ⟨completion, ?_, by rw [hcontent, validate_of_read hback haccepted]⟩
  rw [parseCompletion, hread]

/-! ### An answer in blocks -/

def verdict : Json := .obj [("ok", .bool true)]

def verdictAnswer : Json := .obj [
  ("content", .arr [
    .obj [("type", .str "thinking")],
    .obj [("type", .str "tool_use"), ("input", verdict), ("name", .str "v")],
    .obj [("text", .str "."), ("type", .str "text")]]),
  ("stop_reason", .null)]

theorem carries_verdictAnswer :
    Provider.anthropic.Carries verdict (.ofJson verdictAnswer) := by
  refine ⟨[.other], [.text "."], none, none, by simp [Block.input?], _, rfl, by decide, ?blocks,
    ?usage, ?stop, ?report⟩
  case blocks =>
    refine Or.inl ⟨_, rfl, _, rfl, .cons ?thinking (.cons ?tool (.cons ?text .nil))⟩
    case thinking =>
      exact ⟨"thinking", _, ⟨_, rfl, by decide, ⟨_, rfl, rfl⟩, rfl⟩, by decide, by decide⟩
    case tool =>
      exact ⟨"tool_use", _, ⟨_, rfl, by decide, ⟨_, rfl, rfl⟩, rfl⟩, rfl, by decide,
        ⟨"v", _, rfl, rfl⟩, _, rfl, rfl⟩
    case text =>
      exact ⟨"text", _, ⟨_, rfl, by decide, ⟨_, rfl, rfl⟩, rfl⟩, rfl, by decide, _, rfl, rfl⟩
  case usage => exact List.forall_mem_nil _
  case stop => exact List.forall_mem_singleton.mpr rfl
  case report => exact List.forall_mem_nil _

def verdictOutput : StructuredOutput := ⟨"verdict", none, .obj [("type", .str "object")], none⟩

set_option maxRecDepth 2000 in
/-- The verdict comes back although the answer says more than that. -/
theorem result_survives_verdict :
    Json.raw verdictAnswer.compact = .ok (.ofJson verdictAnswer) ∧
      ∃ completion, parseCompletion .anthropic verdictAnswer.compact = .ok completion ∧
        verdictOutput.validate Schema.standard completion.content = .ok verdict := by
  have hbody : Json.raw verdictAnswer.compact = .ok (.ofJson verdictAnswer) := by cbv
  have hback : Json.read verdict.compact = .ok verdict := by cbv
  have hdialect : Schema.dialect? verdictOutput.schema = some .current := rfl
  have husable : Schema.usable .current verdictOutput.schema = true := by cbv
  have haccepted : verdictOutput.validate Schema.standard verdict.compact = .ok verdict := by
    simp only [StructuredOutput.validate, hback, Schema.standard, hdialect, husable, guard_true,
      Option.bind_eq_bind, Option.bind_some]
    rfl
  exact ⟨hbody, result_survives hback ⟨verdict, haccepted⟩ hbody carries_verdictAnswer⟩

end Provider
end PromptWeave
