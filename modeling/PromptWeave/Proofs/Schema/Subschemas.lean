import PromptWeave.Proofs.Schema.References
import PromptWeave.Proofs.Unicode.Uppercase

/-! Whether the schemas in a translated schema are translated too.
Types are put in capitals and keywords stripped wherever a schema is entered, and negated schemas are
not entered. All schemas in a translated schema are translated exactly when the negated ones need
no translation. -/
namespace PromptWeave
namespace Schema

variable {defs : Dict Json}

def seeking (keyword : String) : Treatment :=
  if keyword = "additionalProperties" then .drop else inliningOf keyword

def strippedNames : List String :=
  ["$schema", "additionalProperties", "definitions", "$defs", "$ref"]

/-- The keyword with its argument is one of a translated schema. -/
structure Fits (k : String) (v : Json) : Prop where
  known : k ∉ strippedNames
  noUnion : k = "type" → ∀ types, v ≠ .arr types
  capital : k = "type" → ∀ t, v = .str t → uppercase t = t

/-- All keywords at the places that are got to through keywords treated so are those of translated
schemas. -/
def FitsThroughout (treat : String → Treatment) (s : Json) : Prop :=
  ∀ fields k v, Relation.ReflTransGen (EntersBy treat) s (.obj fields) → (k, v) ∈ fields → Fits k v

theorem fits_congr {k : String} {v w : Json} (h : k = "type" → v = w) : Fits k v ↔ Fits k w := by
  by_cases hk : k = "type"
  · rw [h hk]
  · constructor <;> intro hfits <;>
      exact ⟨hfits.known, fun he => absurd he hk, fun he => absurd he hk⟩

theorem fits_replaced {f : Json → Except SchemaFault Json} {k : String} {v w : Json}
    (h : Replaced f (inliningOf k) v w) : Fits k v ↔ Fits k w := by
  refine fits_congr ?_
  rintro rfl
  exact replaced_keep.mp h

theorem inliningOf_seeking (k : String) (hk : seeking k = .nested ∨ seeking k = .properties) :
    inliningOf k = seeking k := by
  unfold seeking at hk ⊢
  split_ifs at hk ⊢ with hname
  · simp at hk
  · rfl

theorem seeking_capitalizing (k : String)
    (hk : capitalizing k = .nested ∨ capitalizing k = .properties) :
    seeking k = capitalizing k := by
  have hname : k ≠ "additionalProperties" := by
    rintro rfl
    simp [capitalizing] at hk
  rw [seeking, if_neg hname, capitalizing_entered k hk]

theorem seeks_of_capitalizing {s t : Json} (h : EntersBy capitalizing s t) :
    EntersBy seeking s t := by
  cases h with
  | item h => exact .item h
  | nested h hk => exact .nested h ((seeking_capitalizing _ (Or.inl hk)).trans hk)
  | property h hk hs => exact .property h ((seeking_capitalizing _ (Or.inr hk)).trans hk) hs

/-! ### Inlining -/

theorem fitsThroughout_inlined_iff {s o : Json} (h : inlineBy (resolver defs) s = .ok o)
    (hkeys : ∀ fields, Reaches defs s (.obj fields) → (fields.map (·.1)).Nodup) :
    FitsThroughout seeking o ↔ ∀ fields k v, Remains seeking defs s (.obj fields) →
      Shows defs fields k v → Fits k v := by
  constructor
  · intro hfits fields k v hs hv
    obtain ⟨p, hp, hop⟩ := place_of_remains h inliningOf_seeking hs
    obtain ⟨merged, -, rfl⟩ := inlineBy_obj.mp hp
    obtain ⟨w, hvw⟩ := replaced_of_shows h (reaches_of_remains inliningOf_seeking hs) hv
    have hfind := (traced_inlined hp k w).mpr ⟨v, hv, hvw⟩
    exact (fits_replaced hvw).mpr (hfits _ k w hop (Assoc.mem_of_find? hfind))
  · intro hfits out k w hout hw
    obtain ⟨t, ht, hin⟩ := remains_of_place h inliningOf_seeking hkeys hout
    obtain ⟨fields, _, rfl, -, -⟩ := inlineBy_eq_obj.mp hin
    have hnodup := hkeys fields (reaches_of_remains inliningOf_seeking ht)
    obtain ⟨v, hv, hvw⟩ := shows_of_mem hin hnodup hw
    exact (fits_replaced hvw).mp (hfits fields k v ht hv)

/-! ### Capitals -/

theorem capitalType_fits {v w : Json} {new : List (String × Json)} (h : capitalType v = .ok new)
    (hw : ("type", w) ∈ new) :
    (∀ types, w ≠ .arr types) ∧ ∀ t, w = .str t → uppercase t = t := by
  have hcapital : ∀ t, w = .str (uppercase t) →
      (∀ types, w ≠ .arr types) ∧ ∀ t, w = .str t → uppercase t = t := by
    rintro t rfl
    refine ⟨by simp, ?_⟩
    rintro _ ⟨rfl⟩
    exact uppercase_uppercase t
  cases v with
  | str t =>
    cases h
    exact hcapital t (by simpa using hw)
  | arr types =>
    rw [capitalType] at h
    split at h
    next t _ =>
      split_ifs at h with hlength
      · cases h
        exact hcapital t (by simpa using hw)
      · cases h
        exact hcapital t (by simpa using hw)
    next => cases h
  | _ =>
    cases h
    simp_all

/-- The keywords that come of a field fit, unless inlining would have dropped it. -/
theorem Piece.fits {k : String} {v : Json} {new : List (String × Json)} (h : Piece k v new)
    (hk : inliningOf k ≠ .drop) {l : String} {w : Json} (hw : (l, w) ∈ new) : Fits l w := by
  cases h with
  | type h =>
    by_cases hl : l = "type"
    · subst hl
      obtain ⟨hunion, hcapital⟩ := capitalType_fits h hw
      exact ⟨by decide, fun _ => hunion, fun _ => hcapital⟩
    · rcases (Piece.type h).mem hw with ⟨he, -⟩ | ⟨-, rfl, -⟩
      · exact absurd he hl
      · exact ⟨by decide, fun he => absurd he hl, fun he => absurd he hl⟩
  | dropped => simp at hw
  | replaced hne h =>
    simp only [List.mem_singleton, Prod.mk.injEq] at hw
    obtain ⟨rfl, rfl⟩ := hw
    refine ⟨fun hstripped => ?_, fun he => absurd he hne, fun he => absurd he hne⟩
    simp only [strippedNames, List.mem_cons, List.not_mem_nil, or_false] at hstripped
    rcases hstripped with rfl | rfl | rfl | rfl | rfl
    · exact not_replaced_drop h
    · exact not_replaced_drop h
    · exact hk rfl
    · exact hk rfl
    · exact hk rfl

theorem fits_of_capitalized {s : Json} (hclean : Clean s) {t : Json} {out : List (String × Json)}
    (ht : Relation.ReflTransGen (EntersBy capitalizing) s t) (hto : capitalize t = .ok (.obj out))
    {k : String} {v : Json} (hv : (k, v) ∈ out) : Fits k v := by
  obtain ⟨fields, pieces, rfl, hpieces, rfl⟩ := capitalize_eq_obj hto
  obtain ⟨l, w, new, hw, hp, hnew⟩ := exists_piece hpieces (Json.mem_ofList hv)
  exact hp.fits (hclean fields l w (inside_of_capitalizing ht) hw) hnew

/-- Where types are put in capitals all keywords fit. -/
theorem fitsThroughout_capitalizing {s o : Json} (h : capitalize s = .ok o) (hclean : Clean s) :
    FitsThroughout capitalizing o := by
  intro out k v hout hv
  rcases place_of_capitalize capitalizing_entered h hout with ⟨t, ht, hto⟩ | ⟨hnot, -⟩
  · exact fits_of_capitalized hclean ht hto hv
  · cases hnot

theorem negated_of_capitalize {s o : Json} (h : capitalize s = .ok o)
    (hkeys : ∀ fields, Relation.ReflTransGen (EntersBy capitalizing) s (.obj fields) →
      (fields.map (·.1)).Nodup) {fields : List (String × Json)} {v : Json}
    (ht : Relation.ReflTransGen (EntersBy capitalizing) s (.obj fields)) (hv : ("not", v) ∈ fields) :
    Relation.ReflTransGen (EntersBy seeking) o v := by
  obtain ⟨p, hp, htp⟩ := place_of_entered h hkeys ht
  obtain ⟨pieces, hpieces, rfl⟩ := capitalize_obj.mp htp
  obtain ⟨new, -, hnew⟩ := exists_of_forall₂ hpieces hv
  change Piece "not" v new at hnew
  obtain ⟨w, hw, rfl⟩ := hnew.replaced_of_ne (by decide) (by decide)
  cases replaced_keep.mp hw
  have hmem := mem_of_piece hpieces (hkeys fields ht) hv hnew List.mem_cons_self fun he =>
    absurd he (by decide)
  exact (Relation.ReflTransGen.mono (fun _ _ => seeks_of_capitalizing) _ _ hp).tail
    (.nested hmem rfl)

/-- Once types are in capitals all schemas fit exactly when all negated ones did before. -/
theorem fitsThroughout_capitalize_iff {s o : Json} (h : capitalize s = .ok o) (hclean : Clean s)
    (hkeys : ∀ fields, Relation.ReflTransGen (EntersBy capitalizing) s (.obj fields) →
      (fields.map (·.1)).Nodup) :
    FitsThroughout seeking o ↔ ∀ fields v,
      Relation.ReflTransGen (EntersBy capitalizing) s (.obj fields) → ("not", v) ∈ fields →
        FitsThroughout seeking v := by
  constructor
  · intro hfits fields v ht hv inner k w hinner hw
    exact hfits inner k w ((negated_of_capitalize h hkeys ht hv).trans hinner) hw
  · intro hnegated out k v hout hv
    rcases place_of_capitalize inliningOf_seeking h hout with
      ⟨t, ht, hto⟩ | ⟨-, fields, w, ht, hw, hwp⟩
    · exact fits_of_capitalized hclean ht hto hv
    · exact hnegated fields w ht hw out k v hwp hv

/-! ### Translation -/

theorem negated_inlined_iff {root o : Json} (hroot : root.sortKeys = root)
    (h : inlineBy (resolver (definitions root)) root = .ok o) :
    (∀ fields v, Relation.ReflTransGen (EntersBy capitalizing) o (.obj fields) →
      ("not", v) ∈ fields → FitsThroughout seeking v) ↔
    ∀ fields v, Remains capitalizing (definitions root) root (.obj fields) →
      Shows (definitions root) fields "not" v → ∀ inner k w,
        Remains seeking (definitions root) v (.obj inner) →
        Shows (definitions root) inner k w → Fits k w := by
  have hfits : ∀ {fields v w}, Remains capitalizing (definitions root) root (.obj fields) →
      Shows (definitions root) fields "not" v →
      inlineBy (resolver (definitions root)) v = .ok w →
      (FitsThroughout seeking w ↔ ∀ inner k u, Remains seeking (definitions root) v (.obj inner) →
        Shows (definitions root) inner k u → Fits k u) := by
    intro fields v w hf hv hvw
    obtain ⟨fields', hreach, hmem⟩ :=
      written_of_shows hv (reaches_of_remains capitalizing_entered hf)
    have henter := Reaches.enter hreach (.nested hmem (by decide))
    exact fitsThroughout_inlined_iff hvw fun _ => nodup_of_sorted_reaches hroot henter
  constructor
  · intro hnegated fields v hf hv
    obtain ⟨p, hp, hop⟩ := place_of_remains h capitalizing_entered hf
    obtain ⟨merged, -, rfl⟩ := inlineBy_obj.mp hp
    obtain ⟨w, hvw⟩ := replaced_of_shows h (reaches_of_remains capitalizing_entered hf) hv
    have hfind := (traced_inlined hp "not" w).mpr ⟨v, hv, hvw⟩
    exact (hfits hf hv (replaced_nested.mp hvw)).mp
      (hnegated _ w hop (Assoc.mem_of_find? hfind))
  · intro hnegated out w hout hw
    obtain ⟨s, hs, hin⟩ := remains_of_place h capitalizing_entered
      (fun _ => nodup_of_sorted_reaches hroot (.here root)) hout
    obtain ⟨fields, _, rfl, -, -⟩ := inlineBy_eq_obj.mp hin
    have hreach := reaches_of_remains capitalizing_entered hs
    obtain ⟨v, hv, hvw⟩ := shows_of_mem hin (sorted_of_reaches hroot hreach).nodup hw
    exact (hfits hs hv (replaced_nested.mp hvw)).mpr (hnegated fields v hs hv)

/-- All schemas in a translated schema have their types in capitals, no unions of types and none of
the keywords that are stripped, exactly when this holds already, inlining apart, of each negated
schema that remains. Outside negated schemas it always holds, and no reference and no table of
definitions is left in a negated schema either. -/
theorem fitsThroughout_translated_iff {root o : Json} (hroot : root.sortKeys = root)
    (h : adaptFor .gemini root = .ok o) :
    FitsThroughout capitalizing o ∧ Clean o ∧
    (FitsThroughout seeking o ↔ ∀ fields v,
      Remains capitalizing (definitions root) root (.obj fields) →
      Shows (definitions root) fields "not" v → ∀ inner k w,
        Remains seeking (definitions root) v (.obj inner) →
        Shows (definitions root) inner k w → Fits k w) := by
  obtain ⟨inlined, hinlined, hcapital⟩ := adaptFor_gemini h
  have hin := inlineBy_of_inlineReferences hinlined
  have hclean : Clean inlined :=
    clean_inlined hin fun fields hf => (sorted_of_reaches hroot hf).nodup
  have hkeys : ∀ fields, Relation.ReflTransGen (EntersBy capitalizing) inlined (.obj fields) →
      (fields.map (·.1)).Nodup := by
    intro fields hf
    exact (sorted_of_place hroot hin
      (Relation.ReflTransGen.mono (fun _ _ => enters_of_capitalizing) _ _ hf)).nodup
  refine ⟨fitsThroughout_capitalizing hcapital hclean, clean_capitalize hcapital hclean, ?_⟩
  rw [fitsThroughout_capitalize_iff hcapital hclean hkeys]
  exact negated_inlined_iff hroot hin

def textType : Json := .obj [("type", .str "string")]

def noTextFields : List (String × Json) :=
  [("not", textType), ("type", .arr [.str "string", .str "null"])]

def translatedNoText : Json :=
  .obj [("not", textType), ("nullable", .bool true), ("type", .str "STRING")]

theorem adaptFor_noText : adaptFor .gemini (.obj noTextFields) = .ok translatedNoText := by
  have hinline : inlineReferences (.obj noTextFields) = .ok (.obj noTextFields) := by
    simp [inlineReferences, inlineWithin_eq, noTextFields, textType, inlineBy, inlineFieldsBy,
      inlineFieldBy, inliningOf, mergeSingle, Assoc.find?, Bind.bind, Except.bind, pure,
      Except.pure]
  have hupper : uppercase "string" = "STRING" := by decide
  have hfields : Assoc.ofList [("not", textType), ("type", .str "STRING"),
      ("nullable", .bool true)] =
      [("not", textType), ("nullable", .bool true), ("type", .str "STRING")] := by decide
  have hcapital : capitalize (.obj noTextFields) = .ok translatedNoText := by
    simp [noTextFields, translatedNoText, capitalize, capitalizeFields, capitalizeField,
      capitalizing, capitalType, Json.str?, hupper, hfields, Bind.bind, Except.bind, pure,
      Except.pure]
  rw [adaptFor, hinline]
  exact hcapital

theorem not_fits_textType : ¬ Fits "type" (.str "string") := fun h =>
  absurd (h.capital rfl "string" rfl) (by decide)

theorem fitsThroughout_translated_noText :
    (Json.obj noTextFields).sortKeys = .obj noTextFields ∧
      adaptFor .gemini (.obj noTextFields) = .ok translatedNoText ∧
      FitsThroughout capitalizing translatedNoText ∧ ¬ FitsThroughout seeking translatedNoText := by
  have hordered : (Json.obj noTextFields).sortKeys = .obj noTextFields := by decide
  have htranslated := fitsThroughout_translated_iff hordered adaptFor_noText
  refine ⟨hordered, adaptFor_noText, htranslated.1, fun hfits => not_fits_textType ?_⟩
  have hshown : Shows (definitions (.obj noTextFields)) noTextFields "not" textType :=
    .own rfl (by decide) fun he => absurd he (by decide)
  refine htranslated.2.2.mp hfits noTextFields textType (.here _) hshown _ _ _ (.here _) ?_
  exact .own rfl (by decide) fun he => absurd he (by decide)

/-- The type of a negated schema is left in small letters. -/
theorem type_left_in_negated : ¬ ∀ root o : Json, root.sortKeys = root →
    adaptFor .gemini root = .ok o → FitsThroughout seeking o := by
  intro hall
  refine not_fits_textType (hall (.obj noTextFields) translatedNoText (by decide) adaptFor_noText
    [("type", .str "string")] "type" _ ?_ List.mem_cons_self)
  exact .single (.nested List.mem_cons_self rfl)

end Schema
end PromptWeave
