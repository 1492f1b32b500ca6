import PromptWeave.Proofs.Json.Order
import PromptWeave.Proofs.Schema.Capitals
import PromptWeave.Proofs.Schema.Origins

/-! Which references are left in a schema that was translated.
Where inlining enters no reference is left. Arguments that it does not enter are taken over as they
stand, with all references in them. -/
namespace PromptWeave
namespace Schema

variable {defs : Dict Json}

def dataNames : List String := ["enum", "const", "default", "examples"]

/-- A reference stands somewhere in a schema; names of properties and data do not count. -/
inductive HasReference : Json → Prop
  | here {fields : List (String × Json)} {v : Json} (h : ("$ref", v) ∈ fields) :
      HasReference (.obj fields)
  | item {items : List Json} {s : Json} (hs : s ∈ items) (h : HasReference s) :
      HasReference (.arr items)
  | argument {fields : List (String × Json)} {k : String} {v : Json} (hv : (k, v) ∈ fields)
      (hk : k ∉ dataNames) (hprops : k = "properties" → ∀ props, v ≠ .obj props)
      (h : HasReference v) : HasReference (.obj fields)
  | property {fields props : List (String × Json)} {name : String} {s : Json}
      (hprops : ("properties", .obj props) ∈ fields) (hs : (name, s) ∈ props)
      (h : HasReference s) : HasReference (.obj fields)

/-- The argument of the keyword may hold schemas, and inlining enters none of them. -/
def Unentered (k : String) (v : Json) : Prop :=
  k ∉ dataNames ∧
    (inliningOf k = .keep ∨ inliningOf k = .properties ∧ ∀ props, v ≠ .obj props)

theorem hasReference_of_enters {s t : Json} (h : Enters s t) (ht : HasReference t) :
    HasReference s := by
  cases h with
  | item h => exact .item h ht
  | nested h hk =>
    refine .argument h ?_ ?_ ht
    · rcases nested_names hk with rfl | rfl | rfl | rfl | rfl | rfl <;> decide
    · rintro rfl
      cases hk
  | property h hk hs =>
    cases properties_name hk
    exact .property h hs ht

/-- Where nothing is left to be dropped references stand only in arguments that are not entered. -/
theorem hasReference_iff_of_clean {s : Json} (hs : Clean s) : HasReference s ↔
    ∃ fields k v, Relation.ReflTransGen Enters s (.obj fields) ∧ (k, v) ∈ fields ∧
      Unentered k v ∧ HasReference v := by
  constructor
  · intro h
    induction h with
    | here h => exact absurd rfl (hs _ _ _ .refl h)
    | item hmem _ ih =>
      obtain ⟨fields, k, v, hin, hrest⟩ :=
        ih fun fields k v hf => hs fields k v (.head (.item hmem) hf)
      exact ⟨fields, k, v, .head (.item hmem) hin, hrest⟩
    | @argument fields k v hv hk hprops h ih =>
      cases ht : inliningOf k with
      | drop => exact absurd ht (hs fields k v .refl hv)
      | keep => exact ⟨fields, k, v, .refl, hv, ⟨hk, Or.inl ht⟩, h⟩
      | properties =>
        exact ⟨fields, k, v, .refl, hv, ⟨hk, Or.inr ⟨ht, hprops (properties_name ht)⟩⟩, h⟩
      | nested =>
        have henter : Enters (.obj fields) v := .nested hv ht
        obtain ⟨fields', l, w, hin, hrest⟩ :=
          ih fun fields k v hf => hs fields k v (.head henter hf)
        exact ⟨fields', l, w, .head henter hin, hrest⟩
    | @property fields props name t hprops ht _ ih =>
      have henter : Enters (.obj fields) t := .property hprops (by decide) ht
      obtain ⟨fields', l, w, hin, hrest⟩ := ih fun fields k v hf => hs fields k v (.head henter hf)
      exact ⟨fields', l, w, .head henter hin, hrest⟩
  · rintro ⟨fields, k, v, hin, hv, ⟨hk, hun⟩, h⟩
    have hown : HasReference (.obj fields) := by
      refine .argument hv hk ?_ h
      rintro rfl
      rcases hun with hkeep | ⟨-, hobj⟩
      · cases hkeep
      · exact hobj
    clear hv
    induction hin using Relation.ReflTransGen.head_induction_on with
    | refl => exact hown
    | head henter _ ih =>
      exact hasReference_of_enters henter (ih fun fields k v hf => hs fields k v (.head henter hf))

/-! ### Inlining -/

/-- A reference is left when a schema is inlined: an argument in it is not entered and holds one. -/
def LeavesReference (defs : Dict Json) (s : Json) : Prop :=
  ∃ fields k v, Remains inliningOf defs s (.obj fields) ∧ Shows defs fields k v ∧
    Unentered k v ∧ HasReference v

theorem hasReference_inlined_iff {s o : Json} (h : inlineBy (resolver defs) s = .ok o)
    (hkeys : ∀ fields, Reaches defs s (.obj fields) → (fields.map (·.1)).Nodup) :
    HasReference o ↔ LeavesReference defs s := by
  rw [hasReference_iff_of_clean (clean_inlined h hkeys)]
  constructor
  · rintro ⟨out, k, w, hout, hw, hun, href⟩
    obtain ⟨t, ht, hin⟩ := remains_of_place h (fun _ _ => rfl) hkeys hout
    obtain ⟨fields, _, rfl, -, -⟩ := inlineBy_eq_obj.mp hin
    have hnodup := hkeys fields (reaches_of_remains (fun _ _ => rfl) ht)
    obtain ⟨v, hv, hvw⟩ := shows_of_mem hin hnodup hw
    have hsame : v = w := (replaced_aside (hun.2.imp_right fun hp => ⟨hp.1, Or.inr hp.2⟩)).mp hvw
    subst hsame
    exact ⟨fields, k, v, ht, hv, hun, href⟩
  · rintro ⟨fields, k, v, hs, hv, hun, href⟩
    obtain ⟨p, hp, hop⟩ := place_of_remains h (fun _ _ => rfl) hs
    obtain ⟨merged, -, rfl⟩ := inlineBy_obj.mp hp
    have hvv : Replaced (inlineBy (resolver defs)) (inliningOf k) v v :=
      (replaced_aside (hun.2.imp_right fun hp => ⟨hp.1, Or.inr hp.2⟩)).mpr rfl
    have hfind := (traced_inlined hp k v).mpr ⟨v, hv, hvv⟩
    exact ⟨_, k, v, hop, Assoc.mem_of_find? hfind, hun, href⟩

/-! ### Capitals -/

/-- The argument of a keyword beside others is taken over as it stands when types are put in
capitals. -/
structure TakenOver (beside : String → Json → Prop) (k : String) (v : Json) : Prop where
  aside : capitalizing k = .keep ∨ capitalizing k = .properties ∧ ∀ props, v ≠ .obj props
  noUnion : k = "type" → ∀ ts, v ≠ .arr ts
  noSecond : k = "nullable" → ∀ ts, beside "type" (.arr ts) → ts.length = 1

/-- What is taken over stays so among others of the same types; what stands below `not` is always
taken over. -/
theorem TakenOver.of_same {b b' : String → Json → Prop} {k : String} {v w : Json}
    (h : TakenOver b k v) (hb : ∀ ts, b' "type" (.arr ts) → b "type" (.arr ts))
    (hvw : k = "not" ∨ v = w) : TakenOver b' k w := by
  rcases hvw with rfl | rfl
  · exact ⟨Or.inl rfl, fun he => absurd he (by decide), fun he => absurd he (by decide)⟩
  · exact ⟨h.aside, h.noUnion, fun hk ts hts => h.noSecond hk ts (hb ts hts)⟩

/-- Inlining replaces no argument that is taken over later, but for negated schemas. -/
theorem replaced_takenOver {f : Json → Except SchemaFault Json} {k : String} {v w : Json}
    (hkept : inliningOf k ≠ .drop) (hnot : k ≠ "not") (h : capitalizing k = .keep ∨
      capitalizing k = .properties ∧ ((∀ props, v ≠ .obj props) ∨ ∀ props, w ≠ .obj props)) :
    Replaced f (inliningOf k) v w ↔ v = w := by
  refine replaced_aside ?_
  rcases h with hk | ⟨hk, hobj⟩
  · exact Or.inl ((keep_or_not hk hkept).resolve_right hnot)
  · exact Or.inr ⟨(capitalizing_entered k (Or.inr hk)).trans hk, hobj⟩

/-- What is taken over after inlining is what is shown, but for negated schemas. -/
theorem not_or_same {f : Json → Except SchemaFault Json} {k : String} {v w : Json}
    (hkept : inliningOf k ≠ .drop) (hvw : Replaced f (inliningOf k) v w)
    (h : capitalizing k = .keep ∨
      capitalizing k = .properties ∧ ((∀ props, v ≠ .obj props) ∨ ∀ props, w ≠ .obj props)) :
    k = "not" ∨ v = w := by
  by_cases hnot : k = "not"
  · exact Or.inl hnot
  · exact Or.inr ((replaced_takenOver hkept hnot h).mp hvw)

def KeepsReference (s : Json) : Prop :=
  ∃ fields k v, Relation.ReflTransGen (EntersBy capitalizing) s (.obj fields) ∧ (k, v) ∈ fields ∧
    k ∉ dataNames ∧ TakenOver (fun k v => (k, v) ∈ fields) k v ∧ HasReference v

theorem keepsReference_of_enters {s t : Json} (h : EntersBy capitalizing s t)
    (ht : KeepsReference t) : KeepsReference s := by
  obtain ⟨fields, k, v, hin, hrest⟩ := ht
  exact ⟨fields, k, v, .head h hin, hrest⟩

section Object

variable {fields : List (String × Json)} {pieces : List (List (String × Json))}
  (hpieces : List.Forall₂ (fun p => Piece p.1 p.2) fields pieces)
include hpieces

theorem keepsReference_of_object (hsorted : Assoc.Sorted fields)
    (hclean : ∀ k v, (k, v) ∈ fields → inliningOf k ≠ .drop)
    (hin : ∀ t, EntersBy capitalizing (.obj fields) t → ∀ o, capitalize t = .ok o →
      HasReference o → KeepsReference t)
    (h : HasReference (.obj (Assoc.ofList pieces.flatten))) : KeepsReference (.obj fields) := by
  cases h with
  | here h =>
    obtain ⟨k, v, new, hmem, hp, hw⟩ := exists_piece hpieces (Json.mem_ofList h)
    rcases hp.mem hw with ⟨rfl, -⟩ | ⟨-, hl, -⟩
    · exact absurd rfl (hclean _ v hmem)
    · exact absurd hl (by decide)
  | @argument _ l w hout hl hprops h =>
    obtain ⟨k, v, new, hmem, hp, hw⟩ := exists_piece hpieces (Json.mem_ofList hout)
    rcases hp.argument hw with ⟨rfl, hk, hvw⟩ | ⟨rfl, rfl, rfl, hno⟩ | ⟨-, ⟨t, rfl⟩ | rfl⟩
    · generalize ht : capitalizing l = t at hvw
      cases hvw with
      | nested hvw =>
        have henter : EntersBy capitalizing (.obj fields) v := .nested hmem ht
        exact keepsReference_of_enters henter (hin v henter w hvw h)
      | @properties props ws => exact absurd rfl (hprops (capitalizing_properties ht) ws)
      | noProperties hno =>
        have hname := capitalizing_properties ht
        refine ⟨fields, l, w, .refl, hmem, hl, ⟨Or.inr ⟨ht, hno⟩, fun he => absurd he hk, ?_⟩, h⟩
        exact fun he => absurd (hname.symm.trans he) (by decide)
      | keep =>
        refine ⟨fields, l, w, .refl, hmem, hl, ⟨Or.inl ht, fun he => absurd he hk, ?_⟩, h⟩
        rintro rfl ts hts
        by_contra hlength
        have hsecond := nullable_of_union hpieces hsorted hts hlength
        have hnodup := Assoc.Sorted.nodup (Json.sorted_ofList pieces.flatten)
        cases (Assoc.find?_of_mem hnodup hout).symm.trans hsecond
        cases h
    · refine ⟨fields, _, w, .refl, hmem, hl, ⟨Or.inl rfl, fun _ => hno, fun he => ?_⟩, h⟩
      exact absurd he (by decide)
    · cases h
    · cases h
  | @property _ ws name w hout hws h =>
    obtain ⟨k, v, new, hmem, hp, hw⟩ := exists_piece hpieces (Json.mem_ofList hout)
    rcases hp.argument hw with ⟨rfl, hk, hvw⟩ | ⟨hl, -⟩ | ⟨-, ⟨t, ht⟩ | ht⟩
    · obtain ⟨props, rfl, hprops⟩ := replaced_obj hvw
      obtain ⟨⟨_, t⟩, hmem', rfl, htw⟩ := exists_of_forall₂ (List.Forall₂.flip hprops) hws
      have henter : EntersBy capitalizing (.obj fields) t := .property hmem rfl hmem'
      exact keepsReference_of_enters henter (hin t henter w htw h)
    · exact absurd hl (by decide)
    · cases ht
    · cases ht

theorem hasReference_of_kept (hkeys : (fields.map (·.1)).Nodup) {k : String} {v : Json}
    (hmem : (k, v) ∈ fields) (hk : k ∉ dataNames)
    (ht : TakenOver (fun k v => (k, v) ∈ fields) k v) (h : HasReference v) :
    HasReference (.obj (Assoc.ofList pieces.flatten)) := by
  obtain ⟨new, -, hp⟩ := exists_of_forall₂ hpieces hmem
  change Piece k v new at hp
  have hprops : k = "properties" → ∀ props, v ≠ .obj props := by
    rintro rfl
    rcases ht.aside with hkeep | ⟨-, hno⟩
    · cases hkeep
    · exact hno
  have hv : (k, v) ∈ new := by
    cases hp with
    | type hp =>
      cases v with
      | str => cases h
      | arr ts => exact absurd rfl (ht.noUnion rfl ts)
      | _ =>
        cases hp
        exact List.mem_cons_self
    | dropped _ _ hdrop =>
      rcases ht.aside with hkeep | ⟨hkeep, -⟩ <;> cases hdrop.symm.trans hkeep
    | replaced _ hp =>
      cases (replaced_aside (ht.aside.imp_right fun hp => ⟨hp.1, Or.inl hp.2⟩)).mp hp
      exact List.mem_cons_self
  exact .argument (mem_of_piece hpieces hkeys hmem hp hv ht.noSecond) hk hprops h

end Object

theorem hasReference_capitalize_iff (s : Json) : ∀ o, capitalize s = .ok o → Clean s →
    (∀ fields, Relation.ReflTransGen Enters s (.obj fields) → Assoc.Sorted fields) →
    (HasReference o ↔ KeepsReference s) := by
  induction s using enters_induction with
  | step s ih =>
    intro o h hclean hsorted
    have hin : ∀ t, EntersBy capitalizing s t → ∀ o, capitalize t = .ok o →
        (HasReference o ↔ KeepsReference t) := by
      intro t ht o ho
      have henter := enters_of_capitalizing ht
      exact ih t (.single henter) o ho (fun fields k v hf => hclean fields k v (.head henter hf))
        fun fields hf => hsorted fields (.head henter hf)
    cases s with
    | arr items =>
      obtain ⟨os, hos, rfl⟩ := capitalize_arr.mp h
      constructor
      · intro href
        cases href with
        | item ho href =>
          obtain ⟨t, ht, hto⟩ := exists_of_forall₂ (List.Forall₂.flip hos) ho
          exact keepsReference_of_enters (.item ht) ((hin t (.item ht) _ hto).mp href)
      · rintro ⟨fields, k, v, hplace, hrest⟩
        rcases Relation.ReflTransGen.cases_head hplace with he | ⟨t, ht, hplace⟩
        · cases he
        · cases ht with
          | item ht =>
            obtain ⟨o, ho, hto⟩ := exists_of_forall₂ hos ht
            exact .item ho ((hin t (.item ht) o hto).mpr ⟨fields, k, v, hplace, hrest⟩)
    | obj fields =>
      obtain ⟨pieces, hpieces, rfl⟩ := capitalize_obj.mp h
      have hown := hsorted fields .refl
      constructor
      · exact keepsReference_of_object hpieces hown (fun k v => hclean fields k v .refl)
          fun t ht o ho => (hin t ht o ho).mp
      · rintro ⟨fields', k, v, hplace, hrest⟩
        rcases Relation.ReflTransGen.cases_head hplace with he | ⟨t, ht, hplace⟩
        · cases he
          obtain ⟨hmem, hk, htaken, href⟩ := hrest
          exact hasReference_of_kept hpieces hown.nodup hmem hk htaken href
        · obtain ⟨q, hq, hto⟩ := capitalize_of_entered h
            (fun _ he => Json.obj.inj he ▸ hown.nodup) ht
          exact hasReference_of_enters (enters_of_capitalizing hq)
            ((hin t ht q hto).mpr ⟨fields', k, v, hplace, hrest⟩)
    | _ =>
      simp only [capitalize, Except.ok.injEq] at h
      subst h
      constructor
      · intro href
        cases href
      · rintro ⟨fields, k, v, hplace, -⟩
        rcases Relation.ReflTransGen.cases_head hplace with he | ⟨t, ht, -⟩
        · cases he
        · cases ht

/-! ### Translation -/

theorem adaptFor_gemini {root o : Json} (h : adaptFor .gemini root = .ok o) :
    ∃ inlined, inlineReferences root = .ok inlined ∧ capitalize inlined = .ok o := by
  rwa [adaptFor, bind_eq_ok] at h

section Ordered

variable {root : Json} (hroot : root.sortKeys = root)
include hroot

theorem sorted_of_reaches {fields : List (String × Json)}
    (h : Reaches (definitions root) root (.obj fields)) : Assoc.Sorted fields :=
  Json.sorted_of_inside hroot (inside_of_reaches h)

theorem sorted_of_place {o : Json} (h : inlineBy (resolver (definitions root)) root = .ok o)
    {out : List (String × Json)} (hout : Relation.ReflTransGen Enters o (.obj out)) :
    Assoc.Sorted out := by
  obtain ⟨s, hs, hin⟩ := remains_of_place h (fun _ _ => rfl)
    (fun fields hf => (sorted_of_reaches hroot hf).nodup) hout
  obtain ⟨fields, merged, rfl, hmerged, rfl⟩ := inlineBy_eq_obj.mp hin
  have hfields := sorted_of_reaches hroot (reaches_of_remains (fun _ _ => rfl) hs)
  exact sorted_mergeSingle (sorted_merged hfields hmerged)

theorem nodup_of_sorted_reaches {s : Json} (hs : Reaches (definitions root) root s)
    {fields : List (String × Json)} (h : Reaches (definitions root) s (.obj fields)) :
    (fields.map (·.1)).Nodup :=
  (sorted_of_reaches hroot (hs.trans h)).nodup

/-- Where a shown argument is taken over it keeps its references, and a negated schema those that it
leaves itself. -/
theorem hasReference_replaced_iff {fields : List (String × Json)}
    (hreach : Reaches (definitions root) root (.obj fields)) {k : String} {v w : Json}
    (hv : Shows (definitions root) fields k v)
    (hvw : Replaced (inlineBy (resolver (definitions root))) (inliningOf k) v w)
    (hsame : k = "not" ∨ v = w) : HasReference w ↔
      k = "not" ∧ LeavesReference (definitions root) v ∨ k ≠ "not" ∧ HasReference v := by
  by_cases hnot : k = "not"
  · subst hnot
    obtain ⟨fields', hreach', hmem⟩ := written_of_shows hv hreach
    have henter := Reaches.enter hreach' (.nested hmem (by decide))
    simpa using hasReference_inlined_iff (replaced_nested.mp hvw)
      fun _ => nodup_of_sorted_reaches hroot henter
  · rw [hsame.resolve_left hnot]
    simp [hnot]

/-- What is taken over of an inlined schema is what its schemas show, apart from negated schemas,
which are inlined themselves. -/
theorem keepsReference_inlined_iff {o : Json}
    (h : inlineBy (resolver (definitions root)) root = .ok o) :
    KeepsReference o ↔ ∃ fields k v, Remains capitalizing (definitions root) root (.obj fields) ∧
      Shows (definitions root) fields k v ∧ k ∉ dataNames ∧
      TakenOver (Shows (definitions root) fields) k v ∧
      (k = "not" ∧ LeavesReference (definitions root) v ∨ k ≠ "not" ∧ HasReference v) := by
  constructor
  · rintro ⟨out, k, w, hout, hw, hk, htaken, href⟩
    obtain ⟨s, hs, hin⟩ := remains_of_place h capitalizing_entered
      (fun fields => nodup_of_sorted_reaches hroot (.here root)) hout
    obtain ⟨fields, _, rfl, -, -⟩ := inlineBy_eq_obj.mp hin
    have hreach := reaches_of_remains capitalizing_entered hs
    obtain ⟨v, hv, hvw⟩ := shows_of_mem hin (sorted_of_reaches hroot hreach).nodup hw
    have hsame : k = "not" ∨ v = w :=
      not_or_same hv.kept hvw (htaken.aside.imp_right fun hp => ⟨hp.1, Or.inr hp.2⟩)
    refine ⟨fields, k, v, hs, hv, hk, ?_, (hasReference_replaced_iff hroot hreach hv hvw hsame).mp
      href⟩
    refine htaken.of_same (fun ts hts => ?_) (hsame.imp_right Eq.symm)
    exact Assoc.mem_of_find? ((traced_inlined hin "type" _).mpr ⟨_, hts, .keep _⟩)
  · rintro ⟨fields, k, v, hs, hv, hk, htaken, href⟩
    obtain ⟨p, hp, hop⟩ := place_of_remains h capitalizing_entered hs
    obtain ⟨merged, -, rfl⟩ := inlineBy_obj.mp hp
    have hreach := reaches_of_remains capitalizing_entered hs
    obtain ⟨w, hvw⟩ := replaced_of_shows h hreach hv
    have hfind := (traced_inlined hp k w).mpr ⟨v, hv, hvw⟩
    have hsame : k = "not" ∨ v = w :=
      not_or_same hv.kept hvw (htaken.aside.imp_right fun hp => ⟨hp.1, Or.inl hp.2⟩)
    refine ⟨_, k, w, hop, Assoc.mem_of_find? hfind, hk, htaken.of_same (fun ts hts => ?_) hsame,
      (hasReference_replaced_iff hroot hreach hv hvw hsame).mpr href⟩
    obtain ⟨u, hu, huw⟩ := shows_of_mem hp (sorted_of_reaches hroot hreach).nodup hts
    cases huw
    exact hu

end Ordered

theorem clean_capitalize {s o : Json} (h : capitalize s = .ok o) (hs : Clean s) : Clean o := by
  intro out l w hout hmem
  obtain ⟨fields, k, v, hf, hv, ⟨rfl, rfl⟩ | ⟨new, hp, hw⟩⟩ := exists_piece_of_place h hout hmem
  · exact hs fields l w hf hv
  · rcases hp.mem hw with ⟨rfl, -⟩ | ⟨-, rfl, -⟩
    · exact hs fields l v hf hv
    · decide

/-- Every reference that is reached is looked up, and none is left where inlining enters. One is left
elsewhere exactly when a schema that remains shows an argument that holds one and is taken
over, or a negated schema that leaves one itself. -/
theorem references_translated {root o : Json} (hroot : root.sortKeys = root)
    (h : adaptFor .gemini root = .ok o) :
    (∀ fields a, Reaches (definitions root) root (.obj fields) →
      Assoc.find? "$ref" fields = some a → ∃ f, resolver (definitions root) a = .ok f) ∧
    Clean o ∧
    (HasReference o ↔ ∃ fields k v, Remains capitalizing (definitions root) root (.obj fields) ∧
      Shows (definitions root) fields k v ∧ k ∉ dataNames ∧
      TakenOver (Shows (definitions root) fields) k v ∧
      (k = "not" ∧ LeavesReference (definitions root) v ∨ k ≠ "not" ∧ HasReference v)) := by
  obtain ⟨inlined, hinlined, hcapital⟩ := adaptFor_gemini h
  have hin := inlineBy_of_inlineReferences hinlined
  have hclean : Clean inlined :=
    clean_inlined hin fun fields hf => (sorted_of_reaches hroot hf).nodup
  refine ⟨fun fields a hf href => ?_, clean_capitalize hcapital hclean, ?_⟩
  · obtain ⟨p, hp⟩ := inlineBy_of_reaches hin hf
    exact resolve_of_inlineBy hp href
  · have hcapitals := hasReference_capitalize_iff inlined o hcapital hclean fun fields =>
      sorted_of_place hroot hin
    exact hcapitals.trans (keepsReference_inlined_iff hroot hin)

def tuplePlaces : Json := .arr [.obj [("$ref", .str "#/definitions/A")]]

def tupleFields : List (String × Json) :=
  [("definitions", .obj [("A", .obj [("type", .str "string")])]), ("prefixItems", tuplePlaces)]

def translatedTuple : Json := .obj [("prefixItems", tuplePlaces)]

theorem adaptFor_tuple : adaptFor .gemini (.obj tupleFields) = .ok translatedTuple := by
  have hinline : inlineReferences (.obj tupleFields) = .ok translatedTuple := by
    simp [inlineReferences, inlineWithin_eq, tupleFields, translatedTuple, inlineBy, inlineFieldsBy,
      inlineFieldBy, inliningOf, mergeSingle, Assoc.find?, Bind.bind, Except.bind, pure,
      Except.pure]
  have hcapital : capitalize translatedTuple = .ok translatedTuple := by
    simp [translatedTuple, capitalize, capitalizeFields, capitalizeField, capitalizing,
      Assoc.ofList, Assoc.insert, Bind.bind, Except.bind, pure, Except.pure]
  rw [adaptFor, hinline]
  exact hcapital

theorem hasReference_tuplePlaces : HasReference tuplePlaces :=
  .item List.mem_cons_self (.here List.mem_cons_self)

theorem references_translated_tuple :
    (Json.obj tupleFields).sortKeys = .obj tupleFields ∧
      adaptFor .gemini (.obj tupleFields) = .ok translatedTuple ∧ HasReference translatedTuple := by
  have hordered : (Json.obj tupleFields).sortKeys = .obj tupleFields := by decide
  refine ⟨hordered, adaptFor_tuple, (references_translated hordered adaptFor_tuple).2.2.mpr ?_⟩
  have hshown : Shows (definitions (.obj tupleFields)) tupleFields "prefixItems" tuplePlaces :=
    .own rfl (by decide) fun he => absurd he (by decide)
  refine ⟨tupleFields, _, _, .here _, hshown, by decide, ⟨Or.inl rfl, ?_, ?_⟩, ?_⟩
  · exact fun he => absurd he (by decide)
  · exact fun he => absurd he (by decide)
  · exact Or.inr ⟨by decide, hasReference_tuplePlaces⟩

/-- A reference in a place of a tuple is left, and the definition that it names is gone. -/
theorem reference_left_in_tuple :
    ¬ ∀ root o : Json, root.sortKeys = root → adaptFor .gemini root = .ok o → ¬ HasReference o := by
  intro hnone
  refine hnone (.obj tupleFields) translatedTuple (by decide) adaptFor_tuple ?_
  exact .argument List.mem_cons_self (by decide) (fun he => absurd he (by decide))
    hasReference_tuplePlaces

end Schema
end PromptWeave
