import PromptWeave.Proofs.Json.Restoring
import PromptWeave.Proofs.Provider.Conversation
import PromptWeave.Proofs.Schema.Settled

/-! A structured result as the input of a tool.
The schema is sent as that of the one tool that has to be used. Tools take objects, so a schema with
another type has no such request, and their names have few characters to choose from. To send again
what was sent gives the same request. -/
namespace PromptWeave

namespace ChatRequest

def withSchema (r : ChatRequest) (o : StructuredOutput) : ChatRequest :=
  { r with responseFormat := r.responseFormat.map fun f => { f with jsonSchema := some o } }

theorem schema?_withSchema {r : ChatRequest} {o : StructuredOutput} (h : r.schema? = some o)
    (new : StructuredOutput) : (r.withSchema new).schema? = some new := by
  obtain ⟨f, hf, -⟩ := Option.bind_eq_some_iff.mp h
  rw [withSchema, schema?, hf]
  rfl

end ChatRequest

namespace Provider

/-! ### Names -/

/-- A letter, a digit, a low line or a hyphen, all of them of ASCII. -/
def IsNameChar (c : Char) : Prop :=
  ('a' ≤ c ∧ c ≤ 'z') ∨ ('A' ≤ c ∧ c ≤ 'Z') ∨ ('0' ≤ c ∧ c ≤ '9') ∨ c = '_' ∨ c = '-'

instance : DecidablePred IsNameChar := fun _ => inferInstanceAs (Decidable (_ ∨ _))

structure FitsTool (name : String) : Prop where
  nonempty : 1 ≤ name.length
  short : name.length ≤ 64
  chars : ∀ c ∈ name.toList, IsNameChar c

theorem isToolNameChar_iff (c : Char) : isToolNameChar c = true ↔ IsNameChar c := by
  have hparts : c.isAlphanum = (c.isUpper || c.isLower || c.isDigit) := rfl
  have hupper : c.isUpper = decide ('A' ≤ c ∧ c ≤ 'Z') := rfl
  have hlower : c.isLower = (decide ('a' ≤ c) && decide (c ≤ 'z')) := rfl
  have hdigit : c.isDigit = (decide ('0' ≤ c) && decide (c ≤ '9')) := rfl
  simp only [isToolNameChar, hparts, hupper, hlower, hdigit, IsNameChar, Bool.or_eq_true,
    Bool.and_eq_true, decide_eq_true_eq, beq_iff_eq]
  tauto

def cleaned (name : String) : List Char :=
  (name.toList.map fun c => if isToolNameChar c then c else '_').take maxToolName

theorem toolName_eq (name : String) :
    toolName name = if cleaned name = [] then "response" else .ofList (cleaned name) := by
  simp only [toolName, cleaned, List.isEmpty_iff]
  rfl

theorem isNameChar_of_cleaned {name : String} {c : Char} (h : c ∈ cleaned name) :
    IsNameChar c := by
  obtain ⟨b, -, rfl⟩ := List.mem_map.mp (List.mem_of_mem_take h)
  apply (isToolNameChar_iff _).mp
  by_cases hb : isToolNameChar b = true
  · rw [if_pos hb, hb]
  · rw [if_neg hb]
    rfl

theorem cleaned_of_fits {name : String} (h : FitsTool name) : cleaned name = name.toList := by
  have hsame : name.toList.map (fun c => if isToolNameChar c then c else '_') = name.toList := by
    refine (List.map_congr_left fun c hc => ?_).trans (List.map_id _)
    exact if_pos ((isToolNameChar_iff c).mpr (h.chars c hc))
  rw [cleaned, hsame, List.take_of_length_le]
  exact h.short

theorem fits_toolName (name : String) : FitsTool (toolName name) := by
  rw [toolName_eq]
  by_cases hempty : cleaned name = []
  · rw [if_pos hempty]
    have hchars : "response".toList.all isToolNameChar = true := by decide
    exact ⟨by decide, by decide, fun c hc =>
      (isToolNameChar_iff c).mp (List.all_eq_true.mp hchars c hc)⟩
  · have hlength : (String.ofList (cleaned name)).length = (cleaned name).length :=
      String.length_ofList
    rw [if_neg hempty]
    refine ⟨?_, ?_, fun c hc => ?_⟩
    · rw [hlength]
      exact List.length_pos_iff.mpr hempty
    · rw [hlength]
      exact List.length_take_le _ _
    · rw [String.toList_ofList] at hc
      exact isNameChar_of_cleaned hc

theorem toolName_of_fits {name : String} (h : FitsTool name) : toolName name = name := by
  have hne : name.toList ≠ [] := List.length_pos_iff.mp h.nonempty
  rw [toolName_eq, cleaned_of_fits h, if_neg hne, String.ofList_toList]

/-! ### Schemas -/

/-- A schema without a type other than that of an object. -/
def OfObject (schema : Json) : Prop :=
  ∀ fields, schema = .obj fields →
    Assoc.find? "type" fields = none ∨ Assoc.find? "type" fields = some (.str "object")

/-- The schema of a tool's input. An object has the type and no dialect, all else is as it was. -/
inductive SentAs : Json → Json → Prop
  | plain {schema : Json} (h : ∀ fields, schema ≠ .obj fields) : SentAs schema schema
  | object {fields sent : List (String × Json)}
      (type : Assoc.find? "type" sent = some (.str "object"))
      (dialect : Assoc.find? "$schema" sent = none)
      (others : ∀ key, key ≠ "type" → key ≠ "$schema" →
        Assoc.find? key sent = Assoc.find? key fields)
      (order : Assoc.Sorted fields → Assoc.Sorted sent) : SentAs (.obj fields) (.obj sent)

theorem ofObject_and_sentAs {schema sent : Json} (h : Schema.asToolInput schema = .ok sent) :
    OfObject schema ∧ SentAs schema sent := by
  unfold Schema.asToolInput at h
  split at h
  next fields =>
    split at h
    next htype =>
      cases h
      refine ⟨fun _ he => ?_, .object ?_ ?_ (fun key hkey hdialect => ?_) fun horder => ?_⟩
      · cases he
        exact Or.inl htype
      · rw [Assoc.find?_insert, if_pos rfl]
      · rw [Assoc.find?_insert, if_neg (by decide), Assoc.find?_erase, if_pos rfl]
      · rw [Assoc.find?_insert, if_neg hkey.symm, Assoc.find?_erase, if_neg hdialect]
      · exact Assoc.sorted_insert _ _ (Assoc.sorted_erase _ horder)
    next htype =>
      cases h
      refine ⟨fun _ he => ?_, .object ?_ ?_ (fun key hkey hdialect => ?_) fun horder => ?_⟩
      · cases he
        exact Or.inr htype
      · rw [Assoc.find?_erase, if_neg (by decide), htype]
      · rw [Assoc.find?_erase, if_pos rfl]
      · rw [Assoc.find?_erase, if_neg hdialect]
      · exact Assoc.sorted_erase _ horder
    next => cases h
  next hplain =>
    cases h
    exact ⟨fun fields he => absurd he (hplain fields), .plain hplain⟩

theorem exists_asToolInput {schema : Json} (h : OfObject schema) :
    ∃ sent, Schema.asToolInput schema = .ok sent := by
  cases schema with
  | obj fields =>
    rcases h fields rfl with htype | htype
    · exact ⟨.obj (Assoc.insert "type" (.str "object") (Assoc.erase "$schema" fields)), by
        rw [Schema.asToolInput, htype]⟩
    · exact ⟨.obj (Assoc.erase "$schema" fields), by rw [Schema.asToolInput, htype]; rfl⟩
  | _ => exact ⟨_, rfl⟩

theorem asToolInput_of_sent {schema sent : Json} (h : Schema.asToolInput schema = .ok sent) :
    Schema.asToolInput sent = .ok sent := by
  cases (ofObject_and_sentAs h).2 with
  | plain _ => exact h
  | @object fields sent type dialect _ _ =>
    have hself : Assoc.erase "$schema" sent = sent := by
      refine List.filter_eq_self.mpr fun p hp => ?_
      have hkey : p.1 ≠ "$schema" := by
        intro he
        exact Assoc.find?_eq_none.mp dialect p.2 (he ▸ hp)
      simpa using hkey
    rw [Schema.asToolInput, type]
    exact congrArg (fun fields => Except.ok (Json.obj fields)) hself

/-! ### Requests -/

theorem toolOf_eq_ok {o : StructuredOutput} {tool : Tool} : toolOf o = .ok tool ↔
    tool.name = toolName o.name ∧ tool.description = o.description ∧
      Schema.asToolInput o.schema = .ok tool.inputSchema := by
  have hadapt (sent : Json) : Schema.adapt .anthropic o.schema = .ok sent ↔
      Schema.asToolInput o.schema = .ok sent := Schema.adapt_eq_ok
  obtain ⟨name, description, inputSchema⟩ := tool
  simp only [toolOf, bind_eq_ok, pure_eq_ok, hadapt, Tool.mk.injEq]
  constructor
  · rintro ⟨sent, hsent, rfl, rfl, rfl⟩
    exact ⟨rfl, rfl, hsent⟩
  · rintro ⟨rfl, rfl, hsent⟩
    exact ⟨inputSchema, hsent, rfl, rfl, rfl⟩

def withTool (r : ChatRequest) (tool : Tool) : ToolRequest :=
  ⟨r.model, r.systemText, toolMessages r, r.maxTokens.getD defaultMaxTokens, r.temperature,
    some tool⟩

theorem toolRequest_eq_ok {r : ChatRequest} {o : StructuredOutput} (h : r.schema? = some o)
    {t : ToolRequest} :
    toolRequest r = .ok t ↔ ∃ tool, toolOf o = .ok tool ∧ t = withTool r tool := by
  rw [toolRequest, h, Option.mapM_some]
  cases toolOf o with
  | error e => simp [Bind.bind, Except.bind, Functor.map, Except.map]
  | ok tool =>
    simp [Bind.bind, Except.bind, Functor.map, Except.map, pure, Except.pure, withTool, eq_comm]

theorem shape_tool_eq_ok {r : ChatRequest} {o : StructuredOutput} (h : r.schema? = some o)
    {q : Request} : shape .anthropic r = .ok q ↔
      ∃ tool, toolOf o = .ok tool ∧ q = .anthropic (withTool r tool) := by
  constructor
  · intro hq
    obtain ⟨⟨⟩, -⟩ | ⟨-, t, ht, rfl⟩ | ⟨⟨⟩, -⟩ := shape_eq_ok hq
    obtain ⟨tool, htool, rfl⟩ := (toolRequest_eq_ok h).mp ht
    exact ⟨tool, htool, rfl⟩
  · rintro ⟨tool, htool, rfl⟩
    exact bind_eq_ok.mpr ⟨_, (toolRequest_eq_ok h).mpr ⟨tool, htool, rfl⟩, rfl⟩

/-- The payload has the tool alone, by its name and its schema, and asks for it by its name. -/
structure Forces (payload : Json) (tool : Tool) : Prop where
  tools : ∃ sent, payload.field? "tools" = some (.arr [sent]) ∧
    sent.field? "name" = some (.str tool.name) ∧
    sent.field? "input_schema" = some tool.inputSchema.sortKeys
  choice : payload.field? "tool_choice" =
    some (.obj [("name", .str tool.name), ("type", .str "tool")])

theorem field?_sortKeys_object {fs : List (String × Option Json)} (h : (fs.map (·.1)).Nodup)
    {name : String} {v : Option Json} (hmem : (name, v) ∈ fs) :
    (Json.object fs).sortKeys.field? name = v.map Json.sortKeys := by
  rw [Json.object, Json.sortKeys, Json.field?, Json.find?_ofList_sortFields (Json.nodup_object h),
    Json.find?_object h hmem]

theorem forces_withTool (r : ChatRequest) (tool : Tool) :
    Forces (Request.anthropic (withTool r tool)).encode tool := by
  have htool : (Json.arr [tool.encode]).sortKeys = .arr [tool.encode.sortKeys] := by
    simp only [Json.sortKeys, Json.sortItems]
  have hkeys : "name" < "type" := by decide
  have hchoice : tool.encodeChoice.sortKeys = tool.encodeChoice :=
    Json.sortKeys_obj_eq_self.mpr ⟨List.pairwise_pair.mpr hkeys, by simp [Json.sortKeys]⟩
  refine ⟨⟨tool.encode.sortKeys, ?tools, ?name, ?schema⟩, ?choice⟩
  case tools =>
    rw [← htool, ← Option.map_some]
    exact field?_sortKeys_object (by simp) (by simp [withTool])
  case name => exact field?_sortKeys_object (v := some (.str tool.name)) (by simp) (by simp)
  case schema => exact field?_sortKeys_object (v := some tool.inputSchema) (by simp) (by simp)
  case choice =>
    rw [← Tool.encodeChoice, ← hchoice, ← Option.map_some]
    exact field?_sortKeys_object (by simp) (by simp [withTool])

/-- A tool from which the same tool is made again. -/
theorem toolOf_again {o : StructuredOutput} {tool : Tool} (h : toolOf o = .ok tool) :
    toolOf { o with name := tool.name, schema := tool.inputSchema } = .ok tool := by
  obtain ⟨hname, hdescription, hschema⟩ := toolOf_eq_ok.mp h
  refine toolOf_eq_ok.mpr ⟨?_, hdescription, asToolInput_of_sent hschema⟩
  rw [hname, toolName_of_fits (fits_toolName o.name)]

/-- A request for a result with a schema has the form with a tool exactly when the schema has no
type but that of an object. Then one tool is sent and has to be used, by a name that a tool may
have. With the name and the schema that are sent the request has the same form again. -/
theorem shape_tool {r : ChatRequest} {o : StructuredOutput} (h : r.schema? = some o) :
    ((∃ q, shape .anthropic r = .ok q) ↔ OfObject o.schema) ∧
    ∀ q, shape .anthropic r = .ok q → ∃ t tool, q = .anthropic t ∧ t.tool = some tool ∧
      Forces q.encode tool ∧ FitsTool tool.name ∧ (FitsTool o.name → tool.name = o.name) ∧
      SentAs o.schema tool.inputSchema ∧
      shape .anthropic
        (r.withSchema { o with name := tool.name, schema := tool.inputSchema }) = .ok q := by
  refine ⟨⟨?ofObject, ?shaped⟩, fun q hq => ?sent⟩
  case ofObject =>
    rintro ⟨q, hq⟩
    obtain ⟨tool, htool, -⟩ := (shape_tool_eq_ok h).mp hq
    exact (ofObject_and_sentAs (toolOf_eq_ok.mp htool).2.2).1
  case shaped =>
    intro hobject
    obtain ⟨sent, hsent⟩ := exists_asToolInput hobject
    have htool : toolOf o = .ok ⟨toolName o.name, o.description, sent⟩ :=
      toolOf_eq_ok.mpr ⟨rfl, rfl, hsent⟩
    exact ⟨_, (shape_tool_eq_ok h).mpr ⟨_, htool, rfl⟩⟩
  case sent =>
    obtain ⟨tool, htool, rfl⟩ := (shape_tool_eq_ok h).mp hq
    obtain ⟨hname, -, hschema⟩ := toolOf_eq_ok.mp htool
    refine ⟨_, tool, rfl, rfl, forces_withTool r tool, ?_, fun hfits => ?_,
      (ofObject_and_sentAs hschema).2, ?_⟩
    · rw [hname]
      exact fits_toolName o.name
    · rw [hname, toolName_of_fits hfits]
    · exact (shape_tool_eq_ok (ChatRequest.schema?_withSchema h _)).mpr
        ⟨tool, toolOf_again htool, rfl⟩

def sizes : StructuredOutput :=
  ⟨"größe 2", none, .obj [("$schema", .str "draft-07"), ("required", .arr [.str "cm"])], none⟩

def sizesTool : Tool :=
  ⟨"gr__e_2", none, .obj [("required", .arr [.str "cm"]), ("type", .str "object")]⟩

def sizesRequest : ChatRequest :=
  ⟨none, [.ofText .user "How tall?"], none, none, some (.ofOutput sizes)⟩

theorem shape_tool_sizes : sizesRequest.schema? = some sizes ∧ OfObject sizes.schema ∧
    ∃ q t, shape .anthropic sizesRequest = .ok q ∧ q = .anthropic t ∧ t.tool = some sizesTool ∧
      Forces q.encode sizesTool ∧ FitsTool sizesTool.name ∧
      SentAs sizes.schema sizesTool.inputSchema ∧
      shape .anthropic (sizesRequest.withSchema
        { sizes with name := sizesTool.name, schema := sizesTool.inputSchema }) = .ok q := by
  have hschema : sizesRequest.schema? = some sizes := rfl
  have htool : toolOf sizes = .ok sizesTool := by decide +kernel
  have hshape : shape .anthropic sizesRequest =
      .ok (.anthropic (withTool sizesRequest sizesTool)) :=
    (shape_tool_eq_ok hschema).mpr ⟨sizesTool, htool, rfl⟩
  obtain ⟨hobject, hsent⟩ := shape_tool hschema
  obtain ⟨t, tool, ht, htool, hforces, hfits, -, hsentAs, hagain⟩ := hsent _ hshape
  cases ht
  cases htool
  exact ⟨hschema, hobject.mp ⟨_, hshape⟩, _, _, hshape, rfl, rfl, hforces, hfits, hsentAs,
    hagain⟩

end Provider
end PromptWeave
