import PromptWeave.Prompt
import PromptWeave.Proofs.Json.Restoring

/-! Prompts from their JSON form.
Every prompt is read back from what it is written as, in whichever order the keys stand. The JSON
values in parameters and schemas have their keys in order, as all JSON has that was read. -/
namespace PromptWeave
open Json

/-! ### Leaves -/

namespace Parameters

def InOrder (params : Parameters) : Prop := ∀ p ∈ params.entries, p.2.sortKeys = p.2

theorem restores {params : Parameters} (h : params.InOrder) :
    Restores Decode.dict Parameters.encode params := restores_dict h

theorem yields : Yields Decode.dict InOrder := yields_dict

theorem encode_ne_null (params : Parameters) : params.encode ≠ .null := by simp [encode]

theorem distinctKeys_encode {params : Parameters} (h : params.InOrder) :
    params.encode.distinctKeys = true :=
  distinctKeys_of_sorted (sortKeys_obj_eq_self.mpr ⟨params.sorted, h⟩)

end Parameters

theorem Kind.restores (k : Kind) : Restores Kind.decode (fun k => .str k.name) k :=
  restores_constant (by cases k <;> decide)

namespace Leaf

def InOrder (l : Leaf) : Prop := ∀ params ∈ l.parameters, Parameters.InOrder params

theorem restores {l : Leaf} (h : l.InOrder) : Restores Leaf.decode Leaf.encode l := by
  intro r hr
  have hkeys : ["kind", "text", "weight", "parameters", "title"].Nodup := by decide
  obtain ⟨record, hread, hshows⟩ :=
    hr.record hkeys ["kind", "text", "weight", "parameters", "title"]
  have hkind := hshows.required "kind" (by simp) (by simp) (Kind.restores l.kind)
  have htext := hshows.required "text" (by simp) (by simp) (restores_string l.text)
  have hweight := hshows.optionalOrNone "weight" (by simp) (by simp) (by simp)
    fun x (_ : x ∈ l.weight) => restores_real x
  have hparameters := hshows.optionalOrNone "parameters" (by simp) (by simp)
    Parameters.encode_ne_null fun params hp => Parameters.restores (h params hp)
  have htitle := hshows.optionalOrNone "title" (by simp) (by simp) (by simp)
    fun s (_ : s ∈ l.title) => restores_string s
  exact bind_eq_ok.mpr ⟨record, hread, bind_eq_ok.mpr ⟨_, hkind, bind_eq_ok.mpr ⟨_, htext,
    bind_eq_ok.mpr ⟨_, hweight, bind_eq_ok.mpr ⟨_, hparameters,
    bind_eq_ok.mpr ⟨_, htitle, rfl⟩⟩⟩⟩⟩⟩

theorem distinctKeys_encode {l : Leaf} (h : l.InOrder) : l.encode.distinctKeys = true := by
  have hparameters : ∀ params ∈ l.parameters, (Parameters.encode params).distinctKeys = true :=
    fun params hp => Parameters.distinctKeys_encode (h params hp)
  refine distinctKeys_object (by simp) ?_
  simpa [distinctKeys] using hparameters

theorem yields : Yields Leaf.decode InOrder := by
  intro r l h
  simp only [Leaf.decode, bind_eq_ok, pure_eq_ok] at h
  obtain ⟨_, -, _, -, _, -, _, -, _, hparameters, _, -, rfl⟩ := h
  exact Parameters.yields.optionalOrNone hparameters

end Leaf

/-! ### Sections -/

namespace SectionHead

def InOrder (head : SectionHead) : Prop := ∀ params ∈ head.parameters, Parameters.InOrder params

end SectionHead

namespace SectionItem

inductive InOrder : SectionItem → Prop
  | leaf {l : Leaf} (h : l.InOrder) : InOrder (.leaf l)
  | branch {head : SectionHead} {items : List SectionItem} (hhead : head.InOrder)
      (hitems : ∀ i ∈ items, InOrder i) : InOrder (.branch head items)

theorem encodeItems_eq (items : List SectionItem) : encodeItems items = items.map encode := by
  induction items with
  | nil => rfl
  | cons i is ih => rw [encodeItems, ih, List.map_cons]

theorem distinctKeys_headFields {head : SectionHead} (h : head.InOrder) {items : List SectionItem}
    (hitems : ∀ i ∈ items, i.encode.distinctKeys = true) :
    (headFields head (.arr (encodeItems items))).distinctKeys = true := by
  have hparameters : ∀ params ∈ head.parameters, (Parameters.encode params).distinctKeys = true :=
    fun params hp => Parameters.distinctKeys_encode (h params hp)
  have harr : (Json.arr (encodeItems items)).distinctKeys = true := by
    rw [distinctKeys_arr, encodeItems_eq]
    simpa using hitems
  refine distinctKeys_object (by simp) ?_
  simpa [distinctKeys] using ⟨harr, hparameters⟩

theorem distinctKeys_encode {i : SectionItem} (h : i.InOrder) : i.encode.distinctKeys = true := by
  induction h with
  | leaf hl => exact distinctKeys_obj.mpr ⟨by simp, by simpa using Leaf.distinctKeys_encode hl⟩
  | branch hhead _ ih =>
    exact distinctKeys_obj.mpr ⟨by simp, by simpa using distinctKeys_headFields hhead ih⟩

end SectionItem

namespace Section

structure InOrder (s : Section) : Prop where
  head : s.head.InOrder
  items : ∀ i ∈ s.items, i.InOrder

theorem encode_ne_null (s : Section) : s.encode ≠ .null := by
  simp [encode, SectionItem.headFields, object]

theorem distinctKeys_encode {s : Section} (h : s.InOrder) : s.encode.distinctKeys = true :=
  SectionItem.distinctKeys_headFields h.head fun i hi =>
    SectionItem.distinctKeys_encode (h.items i hi)

theorem headOf_of_shows {record : Record} {head : SectionHead} {items : Json} {depth : Nat}
    (h : head.InOrder) (hshows : record.Shows fieldNames [
      ("title", head.title.map Json.str),
      ("kind", some (.str head.kind.name)),
      ("items", some items),
      ("weight", head.weight.map fun w => .num (.float w)),
      ("item_weight", head.itemWeight.map fun w => .num (.float w)),
      ("parameters", head.parameters.map Parameters.encode)] depth) :
    headOf record = .ok head := by
  have htitle := hshows.optionalOrNone "title" (by decide) (by simp) (by simp)
    fun s (_ : s ∈ head.title) => restores_string s
  have hkind := hshows.withDefault "kind" (by decide) (by simp) (Kind.restores head.kind) default
  have hweight := hshows.optionalOrNone "weight" (by decide) (by simp) (by simp)
    fun x (_ : x ∈ head.weight) => restores_real x
  have hitemWeight := hshows.optionalOrNone "item_weight" (by decide) (by simp) (by simp)
    fun x (_ : x ∈ head.itemWeight) => restores_real x
  have hparameters := hshows.optionalOrNone "parameters" (by decide) (by simp)
    Parameters.encode_ne_null fun params hp => Parameters.restores (h params hp)
  exact bind_eq_ok.mpr ⟨_, htitle, bind_eq_ok.mpr ⟨_, hkind, bind_eq_ok.mpr ⟨_, hweight,
    bind_eq_ok.mpr ⟨_, hitemWeight, bind_eq_ok.mpr ⟨_, hparameters, rfl⟩⟩⟩⟩⟩

/-- Trees that are at most as deep as the nesting that is allowed are read: what stands in them is
less deep. -/
theorem restores_within (fuel : Nat) :
    (∀ s : Section, s.InOrder → ∀ r, Spells s.encode r → r.depth ≤ fuel →
      decodeWithin fuel r = .ok s) ∧
    ∀ i : SectionItem, i.InOrder → ∀ r, Spells i.encode r → r.depth ≤ fuel →
      decodeItemWithin fuel r = .ok i := by
  induction fuel with
  | zero =>
    have hnone (r : Raw) (h : r.depth ≤ 0) : False := by
      have hpos := depth_pos r
      omega
    exact ⟨fun _ _ r _ h => (hnone r h).elim, fun _ _ r _ h => (hnone r h).elim⟩
  | succ fuel ih =>
    obtain ⟨hsection, hitem⟩ := ih
    constructor
    · intro s hs r hr hdepth
      have hkeys : fieldNames.Nodup := by decide
      obtain ⟨record, hread, hshows⟩ := hr.record hkeys fieldNames
      have hhead := headOf_of_shows hs.head hshows
      have hmapped := SectionItem.encodeItems_eq s.items
      obtain ⟨t, ht, hspells, hless⟩ := hshows.find?_some "items" (by decide)
        (w := .arr (s.items.map SectionItem.encode)) (by simp [hmapped])
      have hitems : record.withDefault "items" [] (Decode.list (decodeItemWithin fuel)) =
          .ok s.items := by
        rw [Record.withDefault, ht]
        refine list_of_spells hspells fun i hi u hu hdeep => hitem i (hs.items i hi) u hu ?_
        omega
      exact bind_eq_ok.mpr ⟨record, hread, bind_eq_ok.mpr ⟨_, hhead,
        bind_eq_ok.mpr ⟨_, hitems, rfl⟩⟩⟩
    · intro i hi r hr hdepth
      cases hi with
      | leaf hl =>
        obtain ⟨t, rfl, hspells, -⟩ := hr.single
        exact bind_eq_ok.mpr ⟨_, Leaf.restores hl t hspells, rfl⟩
      | @branch head items hhead hitems =>
        obtain ⟨t, rfl, hspells, hless⟩ := hr.single
        have hs := hsection ⟨head, items⟩ ⟨hhead, hitems⟩ t hspells (by omega)
        exact bind_eq_ok.mpr ⟨_, hs, rfl⟩

theorem restores {s : Section} (h : s.InOrder) : Restores Section.decode Section.encode s :=
  fun r hr => (restores_within r.depth).1 s h r hr (Nat.le_refl _)

theorem headOf_inOrder {record : Record} {head : SectionHead} (h : headOf record = .ok head) :
    head.InOrder := by
  simp only [headOf, bind_eq_ok, pure_eq_ok] at h
  obtain ⟨_, -, _, -, _, -, _, -, _, hparameters, rfl⟩ := h
  exact Parameters.yields.optionalOrNone hparameters

theorem yields_within (fuel : Nat) : Yields (decodeWithin fuel) InOrder ∧
    Yields (decodeItemWithin fuel) SectionItem.InOrder := by
  induction fuel with
  | zero =>
    constructor <;> intro r a h <;> cases h
  | succ fuel ih =>
    obtain ⟨hsection, hitem⟩ := ih
    constructor
    · intro r s h
      simp only [decodeWithin, bind_eq_ok, pure_eq_ok] at h
      obtain ⟨_, -, head, hhead, items, hitems, rfl⟩ := h
      exact ⟨headOf_inOrder hhead, (yields_list hitem).withDefault (by simp) hitems⟩
    · intro r i h
      unfold decodeItemWithin at h
      split at h
      next => cases h
      next =>
        obtain ⟨l, hl, he⟩ := bind_eq_ok.mp h
        rw [pure_eq_ok] at he
        exact he ▸ .leaf (Leaf.yields _ l hl)
      next n t hn =>
        obtain rfl : fuel = n := Nat.succ.inj hn
        obtain ⟨s, hs, he⟩ := bind_eq_ok.mp h
        rw [pure_eq_ok] at he
        have hin := hsection t s hs
        exact he ▸ .branch hin.head hin.items
      next => cases h
      next => cases h

theorem yields : Yields Section.decode InOrder := fun r s h => (yields_within r.depth).1 r s h

end Section

/-! ### Prompts -/

namespace StructuredOutput

def InOrder (o : StructuredOutput) : Prop := o.schema.sortKeys = o.schema

theorem encode_ne_null (o : StructuredOutput) : o.encode ≠ .null := by simp [encode, object]

theorem restores {o : StructuredOutput} (h : o.InOrder) :
    Restores StructuredOutput.decode StructuredOutput.encode o := by
  intro r hr
  have hkeys : fieldNames.Nodup := by decide
  obtain ⟨record, hread, hshows⟩ := hr.record hkeys fieldNames
  have hname := hshows.required "name" (by decide) (by simp) (restores_string o.name)
  have hdescription := hshows.optionalOrNone "description" (by decide) (by simp) (by simp)
    fun s (_ : s ∈ o.description) => restores_string s
  have hschema := hshows.required "schema" (by decide) (by simp) (restores_value h)
  have hstrict := hshows.optionalOrNone "strict" (by decide) (by simp) (by simp)
    fun b (_ : b ∈ o.strict) => restores_bool b
  exact bind_eq_ok.mpr ⟨record, hread, bind_eq_ok.mpr ⟨_, hname, bind_eq_ok.mpr ⟨_, hdescription,
    bind_eq_ok.mpr ⟨_, hschema, bind_eq_ok.mpr ⟨_, hstrict, rfl⟩⟩⟩⟩⟩

theorem distinctKeys_encode {o : StructuredOutput} (h : o.InOrder) :
    o.encode.distinctKeys = true := by
  have hstrict : ∀ v ∈ o.strict.map Json.bool, v.distinctKeys = true := by
    intro v hv
    obtain ⟨b, -, rfl⟩ := Option.map_eq_some_iff.mp hv
    rfl
  refine distinctKeys_object (by simp) ?_
  simpa [distinctKeys, distinctKeys_of_sorted h] using hstrict

theorem yields : Yields StructuredOutput.decode InOrder := by
  intro r o h
  simp only [StructuredOutput.decode, bind_eq_ok, pure_eq_ok] at h
  obtain ⟨_, -, _, -, _, -, _, hschema, _, -, rfl⟩ := h
  exact yields_value.required hschema

end StructuredOutput

namespace Prompt

structure InOrder (p : Prompt) : Prop where
  sections : ∀ a, ∀ s ∈ p.section? a, s.InOrder
  output : ∀ o ∈ p.structuredOutput, o.InOrder

theorem restores {p : Prompt} (h : p.InOrder) : Restores Prompt.decode Prompt.encode p := by
  intro r hr
  have hkeys : fieldNames.Nodup := by decide
  obtain ⟨record, hread, hshows⟩ := hr.record hkeys fieldNames
  have hinstructions := hshows.required "instructions" (by decide) (by simp)
    (Section.restores (h.sections .instructions p.instructions rfl))
  have harea (name : String) (hname : name ∈ fieldNames) (a : Area)
      (hmem : (name, (p.section? a).map Section.encode) ∈ _) :=
    hshows.optionalOrNone name hname hmem Section.encode_ne_null fun s hs =>
      Section.restores (h.sections a s hs)
  have hpersona := harea "persona" (by decide) .persona (by simp [section?])
  have hcontents := harea "contents" (by decide) .content (by simp [section?])
  have hcontexts := harea "contexts" (by decide) .context (by simp [section?])
  have hconstraints := harea "constraints" (by decide) .constraints (by simp [section?])
  have htone := harea "tone" (by decide) .tone (by simp [section?])
  have hexamples := harea "examples" (by decide) .examples (by simp [section?])
  have hreasoning := harea "reasoning" (by decide) .reasoning (by simp [section?])
  have hresponse := harea "response_format" (by decide) .responseFormat (by simp [section?])
  have hsafeguards := harea "safeguards" (by decide) .safeguards (by simp [section?])
  have houtput := hshows.optionalOrNone "structured_output" (by decide) (by simp)
    StructuredOutput.encode_ne_null fun o ho => StructuredOutput.restores (h.output o ho)
  exact bind_eq_ok.mpr ⟨record, hread, bind_eq_ok.mpr ⟨_, hpersona,
    bind_eq_ok.mpr ⟨_, hinstructions, bind_eq_ok.mpr ⟨_, hcontents, bind_eq_ok.mpr ⟨_, hcontexts,
    bind_eq_ok.mpr ⟨_, hconstraints, bind_eq_ok.mpr ⟨_, htone, bind_eq_ok.mpr ⟨_, hexamples,
    bind_eq_ok.mpr ⟨_, hreasoning, bind_eq_ok.mpr ⟨_, hresponse, bind_eq_ok.mpr ⟨_, hsafeguards,
    bind_eq_ok.mpr ⟨_, houtput, rfl⟩⟩⟩⟩⟩⟩⟩⟩⟩⟩⟩⟩

theorem distinctKeys_encode {p : Prompt} (h : p.InOrder) : p.encode.distinctKeys = true := by
  have hsection (a : Area) (s : Section) (hs : s ∈ p.section? a) : s.encode.distinctKeys = true :=
    Section.distinctKeys_encode (h.sections a s hs)
  have houtput : ∀ o ∈ p.structuredOutput, o.encode.distinctKeys = true :=
    fun o ho => StructuredOutput.distinctKeys_encode (h.output o ho)
  have hinstructions := hsection .instructions p.instructions rfl
  refine distinctKeys_object (by simp) ?_
  simpa [hinstructions] using ⟨hsection .persona, hsection .content, hsection .context,
    hsection .constraints, hsection .tone, hsection .examples, hsection .reasoning,
    hsection .responseFormat, hsection .safeguards, houtput⟩

theorem yields : Yields Prompt.decode InOrder := by
  intro r p h
  simp only [Prompt.decode, bind_eq_ok, pure_eq_ok] at h
  obtain ⟨_, -, _, hpersona, _, hinstructions, _, hcontents, _, hcontexts, _, hconstraints,
    _, htone, _, hexamples, _, hreasoning, _, hresponse, _, hsafeguards, _, houtput, rfl⟩ := h
  refine ⟨fun a s hs => ?_, StructuredOutput.yields.optionalOrNone houtput⟩
  cases a with
  | persona => exact Section.yields.optionalOrNone hpersona s hs
  | instructions =>
    cases hs
    exact Section.yields.required hinstructions
  | constraints => exact Section.yields.optionalOrNone hconstraints s hs
  | tone => exact Section.yields.optionalOrNone htone s hs
  | reasoning => exact Section.yields.optionalOrNone hreasoning s hs
  | responseFormat => exact Section.yields.optionalOrNone hresponse s hs
  | safeguards => exact Section.yields.optionalOrNone hsafeguards s hs
  | examples => exact Section.yields.optionalOrNone hexamples s hs
  | context => exact Section.yields.optionalOrNone hcontexts s hs
  | content => exact Section.yields.optionalOrNone hcontents s hs

end Prompt

end PromptWeave
