import PromptWeave.Proofs.Schema.Settled

/-! What translation leaves alone.
At each place that is got to through the schemas of properties, items and alternatives only keywords
are touched: names of properties stay, and so do all arguments that are not schemas or types, also
where they look like schemas. Places are named by the steps that lead to them. -/
namespace PromptWeave
namespace Schema

/-- A step from a schema, or a list of schemas, into one of the schemas in it. -/
inductive Step
  | item (i : Nat)
  | argument (k : String)
  | property (name : String)

def Step.into? : Step → Json → Option Json
  | .item i, .arr items => items[i]?
  | .argument k, .obj fields =>
    if ["items", "anyOf", "oneOf"].contains k then Assoc.find? k fields else none
  | .property name, .obj fields => do (← Assoc.find? "properties" fields).field? name
  | _, _ => none

def place? : List Step → Json → Option Json
  | [], s => some s
  | step :: path, s => do place? path (← step.into? s)

/-- No schema at any place is put together from others. -/
def Plain (s : Json) : Prop :=
  ∀ path fields, place? path s = some (.obj fields) →
    Assoc.find? "$ref" fields = none ∧ Assoc.find? "allOf" fields = none

def removedNames : List String := ["$schema", "additionalProperties", "definitions", "$defs"]

def translatedNames : List String :=
  ["type", "nullable", "properties", "items", "anyOf", "oneOf", "not"]

/-- A type that allows null, or several types. -/
def UnionType (fields : List (String × Json)) : Prop :=
  ∃ types, Assoc.find? "type" fields = some (.arr types) ∧ types.length ≠ 1

/-- Only the keywords of a schema were touched. -/
structure Touched (fields out : List (String × Json)) : Prop where
  sorted : Assoc.Sorted out
  keys : ∀ k, (Assoc.find? k out).isSome ↔
    (Assoc.find? k fields).isSome ∧ k ∉ removedNames ∨ k = "nullable" ∧ UnionType fields
  names : ∀ props, Assoc.find? "properties" fields = some (.obj props) →
    ∃ translated, Assoc.find? "properties" out = some (.obj translated) ∧
      translated.map (·.1) = props.map (·.1)
  same : ∀ k, k ∉ removedNames → k ∉ translatedNames → Assoc.find? k out = Assoc.find? k fields

inductive Framed : Json → Json → Prop
  | obj {fields out : List (String × Json)} (h : Touched fields out) :
      Framed (.obj fields) (.obj out)
  | arr {items outs : List Json} (h : items.length = outs.length) : Framed (.arr items) (.arr outs)
  | rest {v : Json} (harr : ∀ items, v ≠ .arr items) (hobj : ∀ fields, v ≠ .obj fields) :
      Framed v v

variable {resolve : Resolver}

/-! ### Places -/

theorem into?_eq_some {step : Step} {s t : Json} (h : step.into? s = some t) :
    (∃ items : List Json, s = .arr items ∧ t ∈ items) ∨
    (∃ fields, ∃ k ∈ ["items", "anyOf", "oneOf"], s = .obj fields ∧
      Assoc.find? k fields = some t) ∨
    ∃ fields props name, s = .obj fields ∧ Assoc.find? "properties" fields = some (.obj props) ∧
      Assoc.find? name props = some t := by
  cases step with
  | item i =>
    cases s with
    | arr items => exact Or.inl ⟨items, rfl, List.mem_of_getElem? h⟩
    | _ => simp [Step.into?] at h
  | argument k =>
    cases s with
    | obj fields =>
      simp only [Step.into?] at h
      split_ifs at h with hk
      exact Or.inr (Or.inl ⟨fields, k, by simpa using hk, rfl, h⟩)
    | _ => simp [Step.into?] at h
  | property name =>
    cases s with
    | obj fields =>
      simp only [Step.into?, Option.bind_eq_bind, Option.bind_eq_some_iff] at h
      obtain ⟨v, hv, hname⟩ := h
      cases v with
      | obj props => exact Or.inr (Or.inr ⟨fields, props, name, rfl, hv, hname⟩)
      | _ => simp [Json.field?] at hname
    | _ => simp [Step.into?] at h

theorem enters_of_into? {step : Step} {s t : Json} (h : step.into? s = some t) :
    EntersBy capitalizing s t := by
  rcases into?_eq_some h with ⟨items, rfl, ht⟩ | ⟨fields, k, hk, rfl, ht⟩ |
    ⟨fields, props, name, rfl, hprops, ht⟩
  · exact .item ht
  · have hnested : ∀ k ∈ ["items", "anyOf", "oneOf"], capitalizing k = .nested := by decide
    exact .nested (Assoc.mem_of_find? ht) (hnested k hk)
  · exact .property (Assoc.mem_of_find? hprops) (by decide) (Assoc.mem_of_find? ht)

theorem Plain.into {step : Step} {s t : Json} (hs : Plain s) (h : step.into? s = some t) :
    Plain t := by
  intro path fields hpath
  exact hs (step :: path) fields (by rw [place?, h]; exact hpath)

inductive Passes (f : Json → Except SchemaFault Json) : Json → Json → Prop
  | arr {items outs : List Json} (h : List.Forall₂ (fun s t => f s = .ok t) items outs) :
      Passes f (.arr items) (.arr outs)
  | obj {fields out : List (String × Json)}
      (h : ∀ k ∈ ["properties", "items", "anyOf", "oneOf"], Option.Rel (Replaced f (inliningOf k))
        (Assoc.find? k fields) (Assoc.find? k out)) : Passes f (.obj fields) (.obj out)
  | rest {v : Json} (harr : ∀ items, v ≠ .arr items) (hobj : ∀ fields, v ≠ .obj fields) :
      Passes f v v

theorem Passes.rel_into? {f : Json → Except SchemaFault Json} {s t : Json} (h : Passes f s t)
    (step : Step) : Option.Rel (fun s t => f s = .ok t) (step.into? s) (step.into? t) := by
  cases h with
  | arr h =>
    cases step with
    | item i => exact rel_getElem? h i
    | _ => exact .none
  | @obj fields out h =>
    cases step with
    | item => exact .none
    | argument k =>
      simp only [Step.into?]
      split_ifs with hk
      · have hname : k = "items" ∨ k = "anyOf" ∨ k = "oneOf" := by simpa using hk
        have hrel := h k (by rcases hname with rfl | rfl | rfl <;> decide)
        have hnested : inliningOf k = .nested := by rcases hname with rfl | rfl | rfl <;> rfl
        rw [hnested] at hrel
        exact rel_of_mem hrel fun _ _ _ => replaced_nested.mp
      · exact .none
    | property name =>
      have hrel := h "properties" (by decide)
      simp only [Step.into?]
      generalize Assoc.find? "properties" fields = v at hrel
      generalize Assoc.find? "properties" out = w at hrel
      cases hrel with
      | none => exact .none
      | @some v w hvw =>
        generalize ht : inliningOf "properties" = treatment at hvw
        cases hvw with
        | properties h => exact Assoc.rel_find? (R := fun _ s t => f s = .ok t) h name
        | noProperties hno =>
          have hnone : v.field? name = none := by
            cases v with
            | obj props => exact absurd rfl (hno props)
            | _ => rfl
          simp only [Option.bind_eq_bind, Option.bind_some, hnone]
          exact .none
        | nested => cases ht
        | keep => cases ht
  | rest harr hobj =>
    have hnone : step.into? s = none := by
      cases s with
      | arr items => exact absurd rfl (harr items)
      | obj fields => exact absurd rfl (hobj fields)
      | _ => cases step <;> rfl
    rw [hnone]
    exact .none

/-- A pass reaches the same places before and after. -/
theorem rel_place? {f : Json → Except SchemaFault Json} {P : Json → Prop}
    (hinto : ∀ (s t : Json) (step : Step), P s → step.into? s = some t → P t)
    (hpass : ∀ s t, P s → f s = .ok t → Passes f s t) (path : List Step) {s t : Json} (hs : P s)
    (h : f s = .ok t) :
    Option.Rel (fun s t => P s ∧ f s = .ok t) (place? path s) (place? path t) := by
  induction path generalizing s t with
  | nil => exact .some ⟨hs, h⟩
  | cons step path ih =>
    have hrel := (hpass s t hs h).rel_into? step
    simp only [place?]
    cases hu : step.into? s with
    | none =>
      rw [hu] at hrel
      generalize step.into? t = w at hrel ⊢
      cases hrel
      exact .none
    | some u =>
      rw [hu] at hrel
      generalize step.into? t = w at hrel ⊢
      cases hrel with
      | some huw => exact ih (hinto s u step hs hu) huw

/-! ### Inlining -/

theorem kept_of_plain {fields : List (String × Json)} {o : Json}
    (h : inlineBy resolve (.obj fields) = .ok o) (href : Assoc.find? "$ref" fields = none)
    (hall : Assoc.find? "allOf" fields = none) :
    ∃ kept, Kept resolve fields kept ∧ o = .obj kept := by
  obtain ⟨merged, ⟨kept, hkept, hmerged⟩, rfl⟩ := inlineBy_obj.mp h
  rw [href] at hmerged
  subst hmerged
  have hnone := rel_find?_kept hkept "allOf"
  rw [hall] at hnone
  refine ⟨merged, hkept, ?_⟩
  rw [mergeSingle_of_none fun only hsingle => by rw [hsingle] at hnone; cases hnone]

theorem passes_inlined {s t : Json} (hs : Plain s) (h : inlineBy resolve s = .ok t) :
    Passes (inlineBy resolve) s t := by
  cases s with
  | arr items =>
    obtain ⟨outs, houts, rfl⟩ := inlineBy_arr.mp h
    exact .arr houts
  | obj fields =>
    obtain ⟨href, hall⟩ := hs [] fields rfl
    obtain ⟨kept, hkept, rfl⟩ := kept_of_plain h href hall
    refine .obj fun k hk => ?_
    have hrel := rel_find?_kept hkept k
    rwa [if_pos] at hrel
    simp only [List.mem_cons, List.not_mem_nil, or_false] at hk
    rcases hk with rfl | rfl | rfl | rfl <;> decide
  | _ =>
    simp only [inlineBy, Except.ok.injEq] at h
    subst h
    exact .rest (by simp) (by simp)

/-! ### Capitals -/

theorem keys_capitalType {v : Json} {new : List (String × Json)} (h : capitalType v = .ok new)
    {k : String} : (∃ w, (k, w) ∈ new) ↔
      k = "type" ∨ k = "nullable" ∧ ∃ ts, v = .arr ts ∧ ts.length ≠ 1 := by
  rcases capitalType_eq_ok h with ⟨t, rfl, hone⟩ | ⟨t, ts, rfl, hlength, rfl⟩ | ⟨hno, rfl⟩
  · have hunion : ¬ ∃ ts, v = .arr ts ∧ ts.length ≠ 1 := fun ⟨ts, hts, hne⟩ => hne (hone ts hts)
    simp [hunion]
  · simp [hlength, exists_or]
  · simp [hno]

theorem Piece.keys {l : String} {v : Json} {new : List (String × Json)} (h : Piece l v new)
    {k : String} : (∃ w, (k, w) ∈ new) ↔ k = l ∧ capitalizing k ≠ .drop ∨
      l = "type" ∧ k = "nullable" ∧ ∃ ts, v = .arr ts ∧ ts.length ≠ 1 := by
  cases h with
  | type h =>
    have hkept : k = "type" → capitalizing k ≠ .drop := by
      rintro rfl
      decide
    rw [keys_capitalType h, and_iff_left_of_imp hkept, and_iff_right rfl]
  | dropped _ hk hdrop => simp_all
  | @replaced _ _ w hk h =>
    have hkept : k = l → capitalizing k ≠ .drop := by
      rintro rfl hdrop
      exact not_replaced_drop (hdrop ▸ h)
    simp [and_iff_left_of_imp hkept, hk]

section Object

variable {fields : List (String × Json)} {pieces : List (List (String × Json))}
  (hpieces : List.Forall₂ (fun p => Piece p.1 p.2) fields pieces)
include hpieces

/-- An object with types in capitals holds what was there, with its schemas replaced. -/
theorem rel_find?_pieces (hkeys : (fields.map (·.1)).Nodup) {k : String} (hk : k ≠ "type")
    (hnull : k ≠ "nullable") : Option.Rel (Replaced capitalize (capitalizing k))
      (if capitalizing k ≠ .drop then Assoc.find? k fields else none)
      (Assoc.find? k (Assoc.ofList pieces.flatten)) := by
  cases hout : Assoc.find? k (Assoc.ofList pieces.flatten) with
  | none =>
    suffices hnone : (if capitalizing k ≠ .drop then Assoc.find? k fields else none) = none by
      rw [hnone]
      exact .none
    split_ifs with hdrop
    case neg => rfl
    refine Assoc.find?_eq_none.mpr fun v hv => ?_
    obtain ⟨new, -, hp⟩ := exists_of_forall₂ hpieces hv
    obtain ⟨w, -, rfl⟩ := Piece.replaced_of_ne hp hk hdrop
    exact Assoc.find?_eq_none.mp hout w
      (mem_of_piece hpieces hkeys hv hp List.mem_cons_self fun he => absurd he hnull)
  | some w =>
    have hmem := Json.mem_ofList (Assoc.mem_of_find? hout)
    obtain ⟨l, v, new, hv, hp, hw⟩ := exists_piece hpieces hmem
    rcases hp.argument hw with ⟨rfl, -, hvw⟩ | ⟨rfl, -⟩ | ⟨rfl | rfl, -⟩
    · have hdrop : capitalizing k ≠ .drop := fun hdrop => not_replaced_drop (hdrop ▸ hvw)
      rw [if_pos hdrop, Assoc.find?_of_mem hkeys hv]
      exact .some hvw
    · exact absurd rfl hk
    · exact absurd rfl hk
    · exact absurd rfl hnull

theorem exists_of_piece {k l : String} {v : Json} (hv : (l, v) ∈ fields)
    (h : ∀ {new}, Piece l v new → ∃ w, (k, w) ∈ new) :
    ∃ w, (k, w) ∈ Assoc.ofList pieces.flatten := by
  obtain ⟨new, hnew, hp⟩ := exists_of_forall₂ hpieces hv
  obtain ⟨w, hw⟩ := h hp
  rw [← Assoc.isSome_find?, Assoc.find?_ofList, Assoc.isSome_find?]
  exact ⟨w, List.mem_reverse.mpr (List.mem_flatten.mpr ⟨new, hnew, hw⟩)⟩

theorem isSome_find?_pieces {k : String} :
    (Assoc.find? k (Assoc.ofList pieces.flatten)).isSome ↔
      (Assoc.find? k fields).isSome ∧ capitalizing k ≠ .drop ∨
        k = "nullable" ∧ ∃ ts, ("type", .arr ts) ∈ fields ∧ ts.length ≠ 1 := by
  simp only [Assoc.isSome_find?]
  constructor
  · rintro ⟨w, hw⟩
    obtain ⟨l, v, new, hv, hp, hnew⟩ := exists_piece hpieces (Json.mem_ofList hw)
    rcases hp.keys.mp ⟨w, hnew⟩ with ⟨rfl, hdrop⟩ | ⟨rfl, rfl, ts, rfl, hlength⟩
    · exact Or.inl ⟨⟨v, hv⟩, hdrop⟩
    · exact Or.inr ⟨rfl, ts, hv, hlength⟩
  · rintro (⟨⟨v, hv⟩, hdrop⟩ | ⟨rfl, ts, hts, hlength⟩)
    · exact exists_of_piece hpieces hv fun hp => hp.keys.mpr (Or.inl ⟨rfl, hdrop⟩)
    · exact exists_of_piece hpieces hts fun hp => hp.keys.mpr (Or.inr ⟨rfl, rfl, ts, rfl, hlength⟩)

end Object

def DistinctWithin (s : Json) : Prop :=
  ∀ fields, Relation.ReflTransGen (EntersBy capitalizing) s (.obj fields) →
    (fields.map (·.1)).Nodup

theorem DistinctWithin.into {step : Step} {s t : Json} (hs : DistinctWithin s)
    (h : step.into? s = some t) : DistinctWithin t :=
  fun fields hf => hs fields (.head (enters_of_into? h) hf)

theorem passes_capitalized {s t : Json} (hs : DistinctWithin s) (h : capitalize s = .ok t) :
    Passes capitalize s t := by
  cases s with
  | arr items =>
    obtain ⟨outs, houts, rfl⟩ := capitalize_arr.mp h
    exact .arr houts
  | obj fields =>
    obtain ⟨pieces, hpieces, rfl⟩ := capitalize_obj.mp h
    refine .obj fun k hk => ?_
    simp only [List.mem_cons, List.not_mem_nil, or_false] at hk
    have hrel := rel_find?_pieces hpieces (hs fields .refl) (k := k)
    rcases hk with rfl | rfl | rfl | rfl <;> exact hrel (by decide) (by decide)
  | _ =>
    simp only [capitalize, Except.ok.injEq] at h
    subst h
    exact .rest (by simp) (by simp)

/-! ### Translation -/

theorem eq_of_rel_keep {f : Json → Except SchemaFault Json} {v w : Option Json}
    (h : Option.Rel (Replaced f .keep) v w) : v = w := by
  cases h with
  | none => rfl
  | some h => rw [replaced_keep.mp h]

theorem names_of_rel {f : Json → Except SchemaFault Json} {props : List (String × Json)}
    {w : Option Json} (h : Option.Rel (Replaced f .properties) (some (.obj props)) w) :
    ∃ ws, w = some (.obj ws) ∧ ws.map (·.1) = props.map (·.1) := by
  cases h with
  | some h =>
    obtain ⟨ws, hws, rfl⟩ := replaced_properties.mp h
    exact ⟨ws, rfl, (keys_of_forall₂ (List.Forall₂.imp (fun _ _ hpq => hpq.1) hws)).symm⟩

section Kept

variable {fields kept : List (String × Json)} (hkept : Kept resolve fields kept)
include hkept

theorem isSome_find?_kept {k : String} : (Assoc.find? k kept).isSome ↔
    (Assoc.find? k fields).isSome ∧ inliningOf k ≠ .drop := by
  have hrel := rel_find?_kept hkept k
  generalize Assoc.find? k kept = w at hrel ⊢
  split_ifs at hrel with hk
  · generalize Assoc.find? k fields = v at hrel ⊢
    cases hrel <;> simp [hk]
  · cases hrel
    simp [hk]

theorem find?_kept_of_keep {k : String} (hk : inliningOf k = .keep) :
    Assoc.find? k fields = Assoc.find? k kept := by
  have hrel := rel_find?_kept hkept k
  rw [if_pos (by simp [hk]), hk] at hrel
  exact eq_of_rel_keep hrel

end Kept

theorem mem_removedNames {k : String} (hk : k ≠ "$ref") :
    k ∈ removedNames ↔ inliningOf k = .drop ∨ capitalizing k = .drop := by
  simp only [removedNames, inliningOf, capitalizing]
  split_ifs <;> simp_all

theorem keep_of_not_named {k : String} (hremoved : k ∉ removedNames)
    (htranslated : k ∉ translatedNames) (href : k ≠ "$ref") (hall : k ≠ "allOf") :
    inliningOf k = .keep ∧ capitalizing k = .keep := by
  simp_all [removedNames, translatedNames, inliningOf, capitalizing]

section Translated

variable {fields kept : List (String × Json)} {pieces : List (List (String × Json))}
  (hkept : Kept resolve fields kept)
  (hpieces : List.Forall₂ (fun p => Piece p.1 p.2) kept pieces) (hkeys : (kept.map (·.1)).Nodup)
include hkept hpieces hkeys

theorem keys_of_translated (href : Assoc.find? "$ref" fields = none) (k : String) :
    (Assoc.find? k (Assoc.ofList pieces.flatten)).isSome ↔
      (Assoc.find? k fields).isSome ∧ k ∉ removedNames ∨ k = "nullable" ∧ UnionType fields := by
  have hunion : (∃ ts, ("type", .arr ts) ∈ kept ∧ ts.length ≠ 1) ↔ UnionType fields := by
    rw [UnionType, find?_kept_of_keep hkept rfl]
    exact exists_congr fun ts => and_congr_left fun _ =>
      ⟨Assoc.find?_of_mem hkeys, Assoc.mem_of_find?⟩
  rw [isSome_find?_pieces hpieces, isSome_find?_kept hkept, hunion, and_assoc]
  refine or_congr_left (and_congr_right fun hk => ?_)
  have hne : k ≠ "$ref" := by
    rintro rfl
    simp [href] at hk
  rw [mem_removedNames hne, not_or]

theorem names_of_translated {props : List (String × Json)}
    (hprops : Assoc.find? "properties" fields = some (.obj props)) :
    ∃ translated, Assoc.find? "properties" (Assoc.ofList pieces.flatten) = some (.obj translated) ∧
      translated.map (·.1) = props.map (·.1) := by
  have hinlined := rel_find?_kept hkept "properties"
  rw [if_pos (by decide), hprops] at hinlined
  obtain ⟨inlined, hfind, hnames⟩ := names_of_rel hinlined
  have hcapital := rel_find?_pieces hpieces hkeys (k := "properties") (by decide) (by decide)
  rw [if_pos (by decide), hfind] at hcapital
  obtain ⟨translated, hout, hsame⟩ := names_of_rel hcapital
  exact ⟨translated, hout, hsame.trans hnames⟩

theorem find?_of_translated {k : String} (hinl : inliningOf k = .keep)
    (hcap : capitalizing k = .keep) (htype : k ≠ "type") (hnull : k ≠ "nullable") :
    Assoc.find? k (Assoc.ofList pieces.flatten) = Assoc.find? k fields := by
  have hcapital := rel_find?_pieces hpieces hkeys htype hnull
  rw [if_pos (by simp [hcap]), hcap] at hcapital
  rw [find?_kept_of_keep hkept hinl, eq_of_rel_keep hcapital]

theorem touched_of_translated (href : Assoc.find? "$ref" fields = none)
    (hall : Assoc.find? "allOf" fields = none) : Touched fields (Assoc.ofList pieces.flatten) where
  sorted := Json.sorted_ofList _
  keys := keys_of_translated hkept hpieces hkeys href
  names _ := names_of_translated hkept hpieces hkeys
  same k hremoved hk := by
    have hne : k ≠ "type" ∧ k ≠ "nullable" := by
      constructor <;> rintro rfl <;> exact hk (by decide)
    cases hfind : Assoc.find? k fields with
    | none =>
      have hno : ¬ (Assoc.find? k (Assoc.ofList pieces.flatten)).isSome := by
        rw [keys_of_translated hkept hpieces hkeys href]
        rintro (⟨hsome, -⟩ | ⟨rfl, -⟩)
        · simp [hfind] at hsome
        · exact hne.2 rfl
      simpa using hno
    | some v =>
      have habsent : k ≠ "$ref" ∧ k ≠ "allOf" := by
        constructor <;> rintro rfl
        · cases hfind.symm.trans href
        · cases hfind.symm.trans hall
      obtain ⟨hinl, hcap⟩ := keep_of_not_named hremoved hk habsent.1 habsent.2
      rw [find?_of_translated hkept hpieces hkeys hinl hcap hne.1 hne.2, hfind]

end Translated

/-- Nothing but keywords was touched by a pass that did not fail and one after it. -/
theorem framed_of_translated {s i t : Json} (hs : Plain s) (hi : inlineBy resolve s = .ok i)
    (hkeys : DistinctWithin i) (ht : capitalize i = .ok t) : Framed s t := by
  cases s with
  | arr items =>
    obtain ⟨is, his, rfl⟩ := inlineBy_arr.mp hi
    obtain ⟨outs, houts, rfl⟩ := capitalize_arr.mp ht
    exact .arr (his.length_eq.trans houts.length_eq)
  | obj fields =>
    obtain ⟨href, hall⟩ := hs [] fields rfl
    obtain ⟨kept, hkept, rfl⟩ := kept_of_plain hi href hall
    obtain ⟨pieces, hpieces, rfl⟩ := capitalize_obj.mp ht
    exact .obj (touched_of_translated hkept hpieces (hkeys kept .refl) href hall)
  | _ =>
    simp only [inlineBy, Except.ok.injEq] at hi
    subst hi
    simp only [capitalize, Except.ok.injEq] at ht
    subst ht
    exact .rest (by simp) (by simp)

/-- Translation touches only keywords, wherever one gets to. -/
theorem adapt_framed {root o : Json} (hroot : root.sortKeys = root) (hplain : Plain root)
    (h : adapt .gemini root = .ok o) (path : List Step) :
    Option.Rel Framed (place? path root) (place? path o) := by
  obtain ⟨inlined, hinlined, hcapital⟩ := adaptFor_gemini (adapt_eq_ok.mp h)
  have hin := inlineBy_of_inlineReferences hinlined
  have hdistinct : DistinctWithin inlined := fun fields hf =>
    (sorted_of_place hroot hin (inside_of_capitalizing hf)).nodup
  have hfirst := rel_place? (fun _ _ _ => Plain.into) (fun _ _ => passes_inlined) path hplain hin
  have hsecond := rel_place? (fun _ _ _ => DistinctWithin.into) (fun _ _ => passes_capitalized) path
    hdistinct hcapital
  generalize place? path root = s at hfirst ⊢
  generalize place? path inlined = i at hfirst hsecond
  generalize place? path o = t at hsecond ⊢
  cases hfirst with
  | none =>
    cases hsecond
    exact .none
  | some hsi =>
    cases hsecond with
    | some hit =>
      exact .some (framed_of_translated hsi.1 hsi.2 hit.1 hit.2)

theorem plain_obj {fields : List (String × Json)} (href : Assoc.find? "$ref" fields = none)
    (hall : Assoc.find? "allOf" fields = none)
    (harg : ∀ k ∈ ["items", "anyOf", "oneOf"], ∀ t, Assoc.find? k fields = some t → Plain t)
    (hprops : ∀ props name t, Assoc.find? "properties" fields = some (.obj props) →
      Assoc.find? name props = some t → Plain t) : Plain (.obj fields) := by
  rintro (_ | ⟨step, path⟩) inner hpath
  · cases hpath
    exact ⟨href, hall⟩
  · simp only [place?, Option.bind_eq_bind, Option.bind_eq_some_iff] at hpath
    obtain ⟨t, ht, hpath⟩ := hpath
    refine (?_ : Plain t) path inner hpath
    rcases into?_eq_some ht with ⟨items, he, -⟩ | ⟨_, k, hk, he, ht⟩ | ⟨_, props, name, he, hv, ht⟩
    · cases he
    · cases he
      exact harg k hk t ht
    · cases he
      exact hprops props name t hv ht

def schemaData : Json := .obj [("additionalProperties", .bool false), ("type", .str "string")]

def refSchema : Json := .obj [("default", schemaData), ("type", .arr [.str "string", .str "null"])]

def typeSchema : Json := .obj [("enum", .arr [schemaData])]

def keywordFields : List (String × Json) :=
  [("$schema", .str "latest"), ("additionalProperties", .bool false),
    ("properties", .obj [("$ref", refSchema), ("type", typeSchema)])]

def keywordNames : Json := .obj keywordFields

def translatedRefSchema : Json :=
  .obj [("default", schemaData), ("nullable", .bool true), ("type", .str "STRING")]

def translatedKeywordNames : Json :=
  .obj [("properties", .obj [("$ref", translatedRefSchema), ("type", typeSchema)])]

theorem plain_keywordNames : Plain keywordNames := by
  have href : Plain refSchema :=
    plain_obj (by decide) (by decide) (by simp [Assoc.find?]) (by simp [Assoc.find?])
  have htype : Plain typeSchema :=
    plain_obj (by decide) (by decide) (by simp [Assoc.find?]) (by simp [Assoc.find?])
  have hargs : ∀ k ∈ ["items", "anyOf", "oneOf"], Assoc.find? k keywordFields = none := by decide
  have hprops : Assoc.find? "properties" keywordFields =
    some (.obj [("$ref", refSchema), ("type", typeSchema)]) := by decide
  refine plain_obj (by decide) (by decide) (fun k hk t ht => ?_) fun props name t hv ht => ?_
  · rw [hargs k hk] at ht
    cases ht
  · obtain rfl := Json.obj.inj (Option.some.inj (hprops.symm.trans hv))
    rw [Assoc.find?_cons, Assoc.find?_cons, Assoc.find?_nil] at ht
    split_ifs at ht
    · exact Option.some.inj ht ▸ href
    · exact Option.some.inj ht ▸ htype

theorem adapt_keywordNames : adapt .gemini keywordNames = .ok translatedKeywordNames := by
  have hinline : inlineReferences keywordNames = .ok keywordNames := by
    rw [inlineReferences, inlineWithin_eq]
    simp [keywordNames, keywordFields, refSchema, typeSchema, schemaData, inlineBy, inlineFieldsBy,
      inlineFieldBy, inlinePropertiesBy, inliningOf, mergeSingle, Assoc.find?, Bind.bind,
      Except.bind, pure, Except.pure]
  have hupper : uppercase "string" = "STRING" := by decide
  have hsorted : Assoc.ofList [("default", schemaData), ("type", .str "STRING"),
      ("nullable", .bool true)] =
      [("default", schemaData), ("nullable", .bool true), ("type", .str "STRING")] := by decide
  have hleaf : Assoc.ofList [("enum", Json.arr [schemaData])] = [("enum", .arr [schemaData])] := rfl
  have hprops : ∀ v : Json, Assoc.ofList [("properties", v)] = [("properties", v)] := fun _ => rfl
  have hcapital : capitalize keywordNames = .ok translatedKeywordNames := by
    simp [keywordNames, keywordFields, refSchema, typeSchema, translatedKeywordNames,
      translatedRefSchema, capitalize, capitalizeFields, capitalizeField, capitalizeProperties,
      capitalizing, capitalType, Json.str?, hupper, hsorted, hleaf, hprops, Bind.bind, Except.bind,
      pure, Except.pure]
  rw [adapt_eq_ok, adaptFor, hinline]
  exact hcapital

theorem adapt_framed_keywordNames : keywordNames.sortKeys = keywordNames ∧ Plain keywordNames ∧
    adapt .gemini keywordNames = .ok translatedKeywordNames ∧
    Framed refSchema translatedRefSchema := by
  have hordered : keywordNames.sortKeys = keywordNames := by decide
  have hframed := adapt_framed hordered plain_keywordNames adapt_keywordNames [.property "$ref"]
  refine ⟨hordered, plain_keywordNames, adapt_keywordNames, ?_⟩
  cases hframed with
  | some h => exact h

end Schema
end PromptWeave
