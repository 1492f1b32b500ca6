import PromptWeave.Proofs.Schema.Subschemas

/-! Schemas that translation leaves as they are.
Neither pass changes a schema without keywords to drop, without types to put in capitals and without
lists of `allOf` to merge. A translated schema is one of these, so to translate it again changes
nothing. -/
namespace PromptWeave
namespace Schema

variable {defs : Dict Json}

/-- No list of `allOf` holds a single object where inlining enters. -/
def Collapsed (s : Json) : Prop :=
  ∀ fields only, Relation.ReflTransGen Enters s (.obj fields) →
    ("allOf", .arr [.obj only]) ∉ fields

theorem collapsed_inlined {r o : Json} (h : inlineBy (resolver defs) r = .ok o)
    (hkeys : ∀ fields, Reaches defs r (.obj fields) → (fields.map (·.1)).Nodup) : Collapsed o := by
  intro out only hout hmem
  obtain ⟨s, hs, hin⟩ := remains_of_place h (fun _ _ => rfl) hkeys hout
  obtain ⟨fields, _, rfl, -, -⟩ := inlineBy_eq_obj.mp hin
  have hnodup := hkeys fields (reaches_of_remains (fun _ _ => rfl) hs)
  obtain ⟨v, hv, hvw⟩ := shows_of_mem hin hnodup hmem
  obtain ⟨single, rfl, -⟩ := inlineBy_eq_single.mp (replaced_nested.mp hvw)
  exact hv.ne_single single rfl

theorem collapsed_capitalize {s o : Json} (h : capitalize s = .ok o) (hs : Collapsed s) :
    Collapsed o := by
  intro out only hout hmem
  obtain ⟨fields, k, v, hf, hv, ⟨rfl, rfl⟩ | ⟨new, hp, hw⟩⟩ := exists_piece_of_place h hout hmem
  · exact hs fields only hf hv
  · rcases hp.argument hw with ⟨rfl, -, hvw⟩ | ⟨hl, -⟩ | ⟨hl | hl, -⟩
    · -- the list that the one object comes of had a single schema as well
      obtain ⟨items, rfl, hos⟩ := capitalize_eq_arr (replaced_nested.mp hvw)
      obtain ⟨u, _, hu, hnil, rfl⟩ := List.forall₂_cons_right_iff.mp hos
      cases hnil
      obtain ⟨single, _, rfl, -, -⟩ := capitalize_eq_obj hu
      exact hs fields single hf hv
    · exact absurd hl (by decide)
    · exact absurd hl (by decide)
    · exact absurd hl (by decide)

theorem replaced_self {f : Json → Except SchemaFault Json} {t : Treatment} {v : Json}
    (hdrop : t ≠ .drop) (hnested : t = .nested → f v = .ok v)
    (hprops : t = .properties → ∀ props, v = .obj props → ∀ p ∈ props, f p.2 = .ok p.2) :
    Replaced f t v v := by
  cases t with
  | drop => exact absurd rfl hdrop
  | nested => exact .nested (hnested rfl)
  | keep => exact .keep v
  | properties =>
    by_cases hv : ∃ props, v = .obj props
    · obtain ⟨props, rfl⟩ := hv
      refine .properties (List.forall₂_same.mpr fun p hp => ⟨rfl, hprops rfl props rfl p hp⟩)
    · exact .noProperties fun props he => hv ⟨props, he⟩

/-! ### Inlining -/

/-- A schema without references, without tables and without single schemas of `allOf` is inlined to
itself. -/
theorem inlineBy_of_collapsed {resolve : Resolver} (s : Json) :
    Clean s → Collapsed s → inlineBy resolve s = .ok s := by
  induction s using enters_induction with
  | step s ih =>
    intro hclean hcollapsed
    have hin : ∀ t, Enters s t → inlineBy resolve t = .ok t := by
      intro t ht
      exact ih t (.single ht) (fun fields k v hf => hclean fields k v (.head ht hf))
        fun fields only hf => hcollapsed fields only (.head ht hf)
    cases s with
    | arr items =>
      exact inlineBy_arr.mpr ⟨items, List.forall₂_same.mpr fun s hs => hin s (.item hs), rfl⟩
    | obj fields =>
      have hkept : Kept resolve fields fields := by
        have hall : fields.filter (fun p => inliningOf p.1 ≠ .drop) = fields := by
          refine List.filter_eq_self.mpr fun p hp => ?_
          simpa using hclean fields p.1 p.2 .refl hp
        rw [Kept, hall]
        refine List.forall₂_same.mpr fun p hp => ⟨rfl, ?_⟩
        exact replaced_self (hclean fields p.1 p.2 .refl hp)
          (fun hk => hin p.2 (.nested hp hk))
          fun hk props hv q hq => hin q.2 (.property (hv ▸ hp) hk hq)
      have href : Assoc.find? "$ref" fields = none :=
        Assoc.find?_eq_none.mpr fun v hv => hclean fields _ v .refl hv rfl
      have hmerged : Merged resolve fields fields := ⟨fields, hkept, by rw [href]⟩
      refine inlineBy_obj.mpr ⟨fields, hmerged, ?_⟩
      rw [mergeSingle_of_none fun only hall =>
        hcollapsed fields only .refl (Assoc.mem_of_find? hall)]
    | _ => simp only [inlineBy]

/-! ### Capitals -/

theorem capitalType_of_fits {v : Json} (h : Fits "type" v) : capitalType v = .ok [("type", v)] := by
  cases v with
  | str t => rw [capitalType, h.capital rfl t rfl]
  | arr types => exact absurd rfl (h.noUnion rfl types)
  | _ => rfl

theorem capitalizing_ne_drop {k : String} (hk : k ∉ strippedNames) : capitalizing k ≠ .drop := by
  intro hdrop
  unfold capitalizing at hdrop
  split_ifs at hdrop with hname
  rcases hname with rfl | rfl
  · exact hk (by decide)
  · exact hk (by decide)

/-- A schema in order with nothing left to strip and all types in capitals stays as it is. -/
theorem capitalize_of_fits (s : Json) : FitsThroughout capitalizing s →
    (∀ fields, Relation.ReflTransGen (EntersBy capitalizing) s (.obj fields) →
      Assoc.Sorted fields) → capitalize s = .ok s := by
  induction s using enters_induction with
  | step s ih =>
    intro hfits hsorted
    have hin : ∀ t, EntersBy capitalizing s t → capitalize t = .ok t := by
      intro t ht
      exact ih t (.single (enters_of_capitalizing ht))
        (fun fields k v hf => hfits fields k v (.head ht hf))
        fun fields hf => hsorted fields (.head ht hf)
    cases s with
    | arr items =>
      exact capitalize_arr.mpr ⟨items, List.forall₂_same.mpr fun s hs => hin s (.item hs), rfl⟩
    | obj fields =>
      have hpiece : ∀ p ∈ fields, Piece p.1 p.2 [p] := by
        rintro ⟨k, v⟩ hp
        have hkv := hfits fields k v .refl hp
        by_cases hk : k = "type"
        · subst hk
          exact .type (capitalType_of_fits hkv)
        · exact .replaced hk (replaced_self (capitalizing_ne_drop hkv.known)
            (fun hn => hin v (.nested hp hn))
            fun hn props hv q hq => hin q.2 (.property (hv ▸ hp) hn hq))
      refine capitalize_obj.mpr ⟨fields.map fun p => [p], ?_, ?_⟩
      · exact List.forall₂_map_right_iff.mpr (List.forall₂_same.mpr hpiece)
      · have hordered := hsorted fields .refl
        rw [← List.flatMap_def, List.flatMap_singleton', Json.ofList_of_sorted hordered]
    | _ => simp only [capitalize]

theorem sorted_of_capitalized {s o : Json} (h : capitalize s = .ok o) {out : List (String × Json)}
    (hout : Relation.ReflTransGen (EntersBy capitalizing) o (.obj out)) : Assoc.Sorted out := by
  rcases place_of_capitalize capitalizing_entered h hout with ⟨t, -, hto⟩ | ⟨hnot, -⟩
  · obtain ⟨fields, pieces, -, -, rfl⟩ := capitalize_eq_obj hto
    exact Json.sorted_ofList _
  · cases hnot

/-! ### Translation -/

theorem adapt_eq_ok {p : Provider} {s o : Json} : adapt p s = .ok o ↔ adaptFor p s = .ok o := by
  rw [adapt]
  cases adaptFor p s <;> simp

/-- To translate a translated schema succeeds and changes nothing, and no list of `allOf` with a
single object is left where inlining enters. -/
theorem adapt_idempotent {root o : Json} (hroot : root.sortKeys = root)
    (h : adapt .gemini root = .ok o) : adapt .gemini o = .ok o ∧ Collapsed o := by
  rw [adapt_eq_ok] at h
  obtain ⟨hfits, hclean, -⟩ := fitsThroughout_translated_iff hroot h
  obtain ⟨inlined, hinlined, hcapital⟩ := adaptFor_gemini h
  have hin := inlineBy_of_inlineReferences hinlined
  have hcollapsed : Collapsed o := collapsed_capitalize hcapital
    (collapsed_inlined hin fun fields hf => (sorted_of_reaches hroot hf).nodup)
  have hagain : inlineReferences o = .ok o := by
    rw [inlineReferences, inlineWithin_eq]
    exact inlineBy_of_collapsed o hclean hcollapsed
  have hsame : capitalize o = .ok o :=
    capitalize_of_fits o hfits fun fields => sorted_of_capitalized hcapital
  refine ⟨adapt_eq_ok.mpr ?_, hcollapsed⟩
  rw [adaptFor, hagain]
  exact hsame

def noteFields : List (String × Json) := [("type", .arr [.str "string", .str "null"])]

def wrapped : Json := .obj
  [("$defs", .obj [("note", .obj noteFields)]),
    ("allOf", .arr [.obj [("$ref", .str "#/$defs/note")]])]

def unwrapped : Json := .obj [("nullable", .bool true), ("type", .str "STRING")]

theorem adapt_wrapped : adapt .gemini wrapped = .ok unwrapped := by
  have hdefs : (definitions wrapped).find? "#/$defs/note" = some (.obj noteFields) := by decide
  have hsize : (definitions wrapped).size = 1 := by decide
  have hinline : inlineReferences wrapped = .ok (.obj noteFields) := by
    rw [inlineReferences, hsize]
    generalize definitions wrapped = defs at hdefs
    simp [inlineWithin, hdefs, wrapped, noteFields, resolveWith, inlineBy, inlineFieldsBy,
      inlineFieldBy, inlineAllBy, inliningOf, mergeSingle, mergeMissing, Assoc.find?, Assoc.erase,
      Assoc.insert, Bind.bind, Except.bind, pure, Except.pure]
  have hupper : uppercase "string" = "STRING" := by decide
  have hfields : Assoc.ofList [("type", .str "STRING"), ("nullable", .bool true)] =
      [("nullable", .bool true), ("type", Json.str "STRING")] := by decide
  have hcapital : capitalize (.obj noteFields) = .ok unwrapped := by
    simp [noteFields, unwrapped, capitalize, capitalizeFields, capitalType, Json.str?, hupper,
      hfields, Bind.bind, Except.bind, pure, Except.pure]
  rw [adapt_eq_ok, adaptFor, hinline]
  exact hcapital

theorem adapt_idempotent_wrapped : wrapped.sortKeys = wrapped ∧
    adapt .gemini wrapped = .ok unwrapped ∧ adapt .gemini unwrapped = .ok unwrapped ∧
    Collapsed unwrapped := by
  have hordered : wrapped.sortKeys = wrapped := by decide
  exact ⟨hordered, adapt_wrapped, adapt_idempotent hordered adapt_wrapped⟩

end Schema
end PromptWeave
