import PromptWeave.Proofs.Schema.Resolving

/-! Where an inlined schema comes from.
Each keyword of an inlined schema is written in the schema, or in the target of its reference, or in
the single schema of its `allOf`; what is nearer comes first. From this it is known, place by place,
which schema of the input an inlined one was made of. -/
namespace PromptWeave
namespace Schema

variable {resolve : Resolver} {defs : Dict Json} {treat : String → Treatment}

/-- The keyword with its argument, as written in the input, is one of the inlined schema. -/
inductive Shows (defs : Dict Json) : List (String × Json) → String → Json → Prop
  | own {fields : List (String × Json)} {k : String} {v : Json}
      (hv : Assoc.find? k fields = some v) (hk : inliningOf k ≠ .drop)
      (hall : k = "allOf" → ∀ only, v ≠ .arr [.obj only]) : Shows defs fields k v
  | referred {fields target : List (String × Json)} {k path : String} {v : Json}
      (href : Assoc.find? "$ref" fields = some (.str path))
      (hdef : defs.find? path = some (.obj target)) (hnone : Assoc.find? k fields = none)
      (h : Shows defs target k v) : Shows defs fields k v
  | single {fields only : List (String × Json)} {k : String} {v : Json}
      (hall : Assoc.find? "allOf" fields = some (.arr [.obj only]))
      (hnone : k = "allOf" ∨ Assoc.find? k fields = none ∧ ∀ a f,
        Assoc.find? "$ref" fields = some a → resolver defs a = .ok f → Assoc.find? k f = none)
      (h : Shows defs only k v) : Shows defs fields k v

theorem Shows.kept {fields : List (String × Json)} {k : String} {v : Json}
    (h : Shows defs fields k v) : inliningOf k ≠ .drop := by
  induction h with
  | own _ hk _ => exact hk
  | referred _ _ _ _ ih => exact ih
  | single _ _ _ ih => exact ih

theorem Shows.ne_single {fields : List (String × Json)} {v : Json}
    (h : Shows defs fields "allOf" v) (only : List (String × Json)) : v ≠ .arr [.obj only] := by
  generalize hk : "allOf" = k at h
  induction h with
  | own _ _ hall => exact hall hk.symm only
  | referred _ _ _ _ ih => exact ih hk
  | single _ _ _ ih => exact ih hk

theorem rel_find?_kept {fields kept : List (String × Json)} (h : Kept resolve fields kept)
    (k : String) : Option.Rel (Replaced (inlineBy resolve) (inliningOf k))
      (if inliningOf k ≠ .drop then Assoc.find? k fields else none) (Assoc.find? k kept) := by
  have hrel := Assoc.rel_find? (R := fun k => Replaced (inlineBy resolve) (inliningOf k)) h k
  rw [Assoc.find?_filter (fun k => decide (inliningOf k ≠ .drop)) k fields] at hrel
  simpa using hrel

/-- A keyword of the merged fields is one of those kept or, if they do not have it, one of those
that the reference stands for. -/
theorem find?_parts {fields merged : List (String × Json)} (h : Merged resolve fields merged)
    (k : String) : ∃ own rest, Option.Rel (Replaced (inlineBy resolve) (inliningOf k))
        (if inliningOf k ≠ .drop then Assoc.find? k fields else none) own ∧
      (∀ w, rest = some w ↔ ∃ a f, Assoc.find? "$ref" fields = some a ∧ resolve a = .ok f ∧
        Assoc.find? k f = some w) ∧
      Assoc.find? k merged = own.or rest := by
  obtain ⟨kept, hkept, hmerged⟩ := h
  have hrel := rel_find?_kept hkept k
  cases href : Assoc.find? "$ref" fields with
  | none =>
    rw [href] at hmerged
    exact ⟨_, none, hrel, by simp, by simp [hmerged]⟩
  | some a =>
    rw [href] at hmerged
    obtain ⟨f, hf, rfl⟩ := hmerged
    exact ⟨_, Assoc.find? k f, hrel, by simp [hf], find?_mergeMissing kept f k⟩

theorem find?_merged {fields merged : List (String × Json)} (h : Merged resolve fields merged)
    {k : String} {w : Json} : Assoc.find? k merged = some w ↔
      (∃ v, Assoc.find? k fields = some v ∧ inliningOf k ≠ .drop ∧
        Replaced (inlineBy resolve) (inliningOf k) v w) ∨
      (Assoc.find? k fields = none ∨ inliningOf k = .drop) ∧
        ∃ a f, Assoc.find? "$ref" fields = some a ∧ resolve a = .ok f ∧
          Assoc.find? k f = some w := by
  obtain ⟨own, rest, hrel, hrest, hfind⟩ := find?_parts h k
  rw [hfind, ← hrest]
  by_cases hk : inliningOf k = .drop
  · rw [if_neg (by simp [hk])] at hrel
    cases hrel
    simp [hk]
  · rw [if_pos hk] at hrel
    cases hown : Assoc.find? k fields with
    | none =>
      rw [hown] at hrel
      cases hrel
      simp
    | some v =>
      rw [hown] at hrel
      cases hrel with
      | @some _ u hu =>
        rw [Option.some_or, Option.some.injEq]
        constructor
        · rintro rfl
          exact Or.inl ⟨v, rfl, hk, hu⟩
        · rintro (⟨_, ⟨rfl⟩, -, hw⟩ | ⟨hno | hno, -⟩)
          · exact hu.unique hw
          · cases hno
          · exact absurd hno hk

theorem find?_merged_eq_none {fields merged : List (String × Json)}
    (h : Merged resolve fields merged) {k : String} (hk : inliningOf k ≠ .drop)
    (hnone : Assoc.find? k merged = none) : Assoc.find? k fields = none ∧ ∀ a f,
      Assoc.find? "$ref" fields = some a → resolve a = .ok f → Assoc.find? k f = none := by
  obtain ⟨own, rest, hrel, hrest, hfind⟩ := find?_parts h k
  rw [hfind, Option.or_eq_none_iff] at hnone
  obtain ⟨rfl, rfl⟩ := hnone
  rw [if_pos hk] at hrel
  constructor
  · generalize Assoc.find? k fields = x at hrel
    cases hrel
    rfl
  · intro a f href hres
    cases hf : Assoc.find? k f with
    | none => rfl
    | some w => cases (hrest w).mpr ⟨a, f, href, hres, hf⟩

/-- The keywords of the second fields are exactly those that the first show, inlined. -/
def Traced (defs : Dict Json) (fields out : List (String × Json)) : Prop :=
  ∀ k w, Assoc.find? k out = some w ↔
    ∃ v, Shows defs fields k v ∧ Replaced (inlineBy (resolver defs)) (inliningOf k) v w

def ReferenceTraced (defs : Dict Json) (fields : List (String × Json)) : Prop :=
  ∀ a f, Assoc.find? "$ref" fields = some a → resolver defs a = .ok f →
    ∃ path target, a = .str path ∧ defs.find? path = some (.obj target) ∧ Traced defs target f

section Step

variable {fields merged : List (String × Json)} (hmerged : Merged (resolver defs) fields merged)
  (htarget : ReferenceTraced defs fields)
include hmerged htarget

theorem shows_of_merged {k : String} {w : Json} (h : Assoc.find? k merged = some w)
    (hsingle : k = "allOf" → ∀ only', w ≠ .arr [.obj only']) :
    ∃ v, Shows defs fields k v ∧ Replaced (inlineBy (resolver defs)) (inliningOf k) v w := by
  rcases (find?_merged hmerged).mp h with ⟨v, hv, hk, hw⟩ | ⟨hno, a, f, href, hres, hf⟩
  · refine ⟨v, .own hv hk fun hall => ?_, hw⟩
    rintro only rfl
    subst hall
    obtain ⟨only', rfl, -⟩ := inlineBy_single (replaced_nested.mp hw)
    exact hsingle rfl only' rfl
  · obtain ⟨path, target, rfl, hdef, htraced⟩ := htarget a f href hres
    obtain ⟨v, hv, hw⟩ := (htraced k w).mp hf
    exact ⟨v, .referred href hdef (hno.resolve_right hv.kept) hv, hw⟩

theorem single_of_merged {only' : List (String × Json)}
    (h : Assoc.find? "allOf" merged = some (.arr [.obj only'])) :
    ∃ only, Assoc.find? "allOf" fields = some (.arr [.obj only]) ∧
      inlineBy (resolver defs) (.obj only) = .ok (.obj only') := by
  rcases (find?_merged hmerged).mp h with ⟨v, hv, -, hw⟩ | ⟨-, a, f, href, hres, hf⟩
  · obtain ⟨only, rfl, honly⟩ := inlineBy_eq_single.mp (replaced_nested.mp hw)
    exact ⟨only, hv, honly⟩
  · obtain ⟨path, target, -, -, htraced⟩ := htarget a f href hres
    obtain ⟨v, hv, hw⟩ := (htraced _ _).mp hf
    obtain ⟨only, rfl, -⟩ := inlineBy_eq_single.mp (replaced_nested.mp hw)
    exact absurd rfl (hv.ne_single only)

theorem find?_merged_of_referred {target : List (String × Json)} {k path : String} {v w : Json}
    (href : Assoc.find? "$ref" fields = some (.str path))
    (hdef : defs.find? path = some (.obj target)) (hnone : Assoc.find? k fields = none)
    (h : Shows defs target k v) (hw : Replaced (inlineBy (resolver defs)) (inliningOf k) v w) :
    Assoc.find? k merged = some w := by
  have hres : ∃ f, resolver defs (.str path) = .ok f := by
    obtain ⟨kept, -, hkept⟩ := hmerged
    rw [href] at hkept
    obtain ⟨f, hf, -⟩ := hkept
    exact ⟨f, hf⟩
  obtain ⟨f, hf⟩ := hres
  obtain ⟨_, _, hpath, hdef', htraced⟩ := htarget _ f href hf
  cases hpath
  cases hdef.symm.trans hdef'
  have hfound := (htraced k w).mpr ⟨v, h, hw⟩
  exact (find?_merged hmerged).mpr (Or.inr ⟨Or.inl hnone, _, f, href, hf, hfound⟩)

end Step

theorem find?_mergeSingle {merged only : List (String × Json)}
    (h : Assoc.find? "allOf" merged = some (.arr [.obj only])) (k : String) :
    Assoc.find? k (mergeSingle merged) = if k = "allOf" then Assoc.find? k only
      else (Assoc.find? k merged).or (Assoc.find? k only) := by
  rw [mergeSingle_of_single h, find?_mergeMissing, Assoc.find?_erase]
  split_ifs <;> rfl

theorem shows_allOf_iff {fields only : List (String × Json)} {v : Json}
    (hall : Assoc.find? "allOf" fields = some (.arr [.obj only])) :
    Shows defs fields "allOf" v ↔ Shows defs only "allOf" v := by
  constructor
  · intro h
    cases h with
    | own hv _ hno =>
      cases hall.symm.trans hv
      exact absurd rfl (hno rfl only)
    | referred _ _ hnone => cases hall.symm.trans hnone
    | single hall' _ h =>
      cases hall.symm.trans hall'
      exact h
  · exact .single hall (Or.inl rfl)

theorem traced_single {fields merged only only' : List (String × Json)}
    (hmerged : Merged (resolver defs) fields merged) (htarget : ReferenceTraced defs fields)
    (hall : Assoc.find? "allOf" fields = some (.arr [.obj only])) (honly : Traced defs only only')
    {k : String} (hk : k ≠ "allOf") (w : Json) :
    (Assoc.find? k merged).or (Assoc.find? k only') = some w ↔
      ∃ v, Shows defs fields k v ∧ Replaced (inlineBy (resolver defs)) (inliningOf k) v w := by
  rw [Option.or_eq_some_iff]
  constructor
  · rintro (hm | ⟨hnone, ho⟩)
    · exact shows_of_merged hmerged htarget hm fun he => absurd he hk
    · obtain ⟨v, hv, hw⟩ := (honly k w).mp ho
      exact ⟨v, .single hall (Or.inr (find?_merged_eq_none hmerged hv.kept hnone)) hv, hw⟩
  · rintro ⟨v, hv, hw⟩
    cases hv with
    | own hv hkept => exact Or.inl ((find?_merged hmerged).mpr (Or.inl ⟨v, hv, hkept, hw⟩))
    | referred href hdef hnone hv =>
      exact Or.inl (find?_merged_of_referred hmerged htarget href hdef hnone hv hw)
    | single hall' hnone hv =>
      cases hall.symm.trans hall'
      obtain ⟨hown, href⟩ := hnone.resolve_left hk
      have hnew := (honly k w).mpr ⟨v, hv, hw⟩
      refine Or.inr ⟨Option.eq_none_iff_forall_ne_some.mpr fun u hu => ?_, hnew⟩
      rcases (find?_merged hmerged).mp hu with ⟨_, hu, -⟩ | ⟨-, a, f, ha, hf, hu⟩
      · cases hown.symm.trans hu
      · cases (href a f ha hf).symm.trans hu

theorem traced_step {fields merged : List (String × Json)}
    (hmerged : Merged (resolver defs) fields merged) (htarget : ReferenceTraced defs fields)
    (honly : ∀ only only', Assoc.find? "allOf" fields = some (.arr [.obj only]) →
      inlineBy (resolver defs) (.obj only) = .ok (.obj only') → Traced defs only only') :
    Traced defs fields (mergeSingle merged) := by
  intro k w
  by_cases hsingle : ∃ only', Assoc.find? "allOf" merged = some (.arr [.obj only'])
  · obtain ⟨only', hall'⟩ := hsingle
    obtain ⟨only, hall, hin⟩ := single_of_merged hmerged htarget hall'
    have htraced := honly only only' hall hin
    rw [find?_mergeSingle hall']
    by_cases hk : k = "allOf"
    · subst hk
      rw [if_pos rfl, htraced]
      exact exists_congr fun v => and_congr_left fun _ => (shows_allOf_iff hall).symm
    · rw [if_neg hk]
      exact traced_single hmerged htarget hall htraced hk w
  · have hno : ∀ only', Assoc.find? "allOf" merged ≠ some (.arr [.obj only']) :=
      fun only' hall' => hsingle ⟨only', hall'⟩
    rw [mergeSingle_of_none hno]
    constructor
    · intro hm
      refine shows_of_merged hmerged htarget hm ?_
      rintro rfl only' rfl
      exact hno only' hm
    · rintro ⟨v, hv, hw⟩
      cases hv with
      | own hv hk => exact (find?_merged hmerged).mpr (Or.inl ⟨v, hv, hk, hw⟩)
      | referred href hdef hnone hv =>
        exact find?_merged_of_referred hmerged htarget href hdef hnone hv hw
      | @single _ only _ _ hall =>
        have hnone := find?_merged_eq_none hmerged (k := "allOf") (by decide)
        cases hm : Assoc.find? "allOf" merged with
        | none => cases hall.symm.trans (hnone hm).1
        | some u =>
          rcases (find?_merged hmerged).mp hm with ⟨_, hown, -, hu⟩ | ⟨hown | hdrop, -⟩
          · cases hall.symm.trans hown
            obtain ⟨only', rfl, -⟩ := inlineBy_single (replaced_nested.mp hu)
            exact absurd hm (hno only')
          · cases hall.symm.trans hown
          · cases hdrop

/-- Each keyword of an inlined schema is shown by the schema, and all that is shown is there. -/
theorem traced_inlined {fields out : List (String × Json)}
    (h : inlineBy (resolver defs) (.obj fields) = .ok (.obj out)) : Traced defs fields out := by
  refine resolved_induction (motive := fun s => ∀ fields out, s = .obj fields →
    inlineBy (resolver defs) s = .ok (.obj out) → Traced defs fields out)
    (fun s o _ hinside htarget => ?_) h fields out rfl h
  rintro fields out rfl h
  obtain ⟨_, merged, hfields, hmerged, rfl⟩ := inlineBy_eq_obj.mp h
  cases hfields
  refine traced_step hmerged (fun a f href hres => ?_) fun only only' hall hin => ?_
  · obtain ⟨path, target, rfl, hdef, hin⟩ := resolver_eq_ok hres
    obtain ⟨target, _, rfl, -, -⟩ := inlineBy_eq_obj.mp hin
    exact ⟨path, target, rfl, hdef, htarget _ _ _ rfl href hdef _ _ rfl hin⟩
  · have hlist : Enters (.obj fields) (.arr [.obj only]) :=
      .nested (Assoc.mem_of_find? hall) (by decide)
    exact hinside _ (.tail (.single hlist) (.item List.mem_cons_self)) _ _ rfl hin

theorem nodup_inlined {fields out : List (String × Json)}
    (h : inlineBy resolve (.obj fields) = .ok (.obj out)) (hkeys : (fields.map (·.1)).Nodup) :
    (out.map (·.1)).Nodup := by
  obtain ⟨_, merged, hfields, hmerged, rfl⟩ := inlineBy_eq_obj.mp h
  cases hfields
  exact nodup_mergeSingle (nodup_merged hkeys hmerged)

theorem shows_of_mem {fields out : List (String × Json)}
    (h : inlineBy (resolver defs) (.obj fields) = .ok (.obj out))
    (hkeys : (fields.map (·.1)).Nodup) {k : String} {w : Json} (hmem : (k, w) ∈ out) :
    ∃ v, Shows defs fields k v ∧ Replaced (inlineBy (resolver defs)) (inliningOf k) v w :=
  (traced_inlined h k w).mp (Assoc.find?_of_mem (nodup_inlined h hkeys) hmem)

/-! ### Places -/

/-- The second schema, inlined, stands at a place of the first one inlined that is got to through
keywords treated so. -/
inductive Remains (treat : String → Treatment) (defs : Dict Json) : Json → Json → Prop
  | here (s : Json) : Remains treat defs s s
  | item {r s : Json} {items : List Json} (h : Remains treat defs r (.arr items)) (hs : s ∈ items) :
      Remains treat defs r s
  | nested {r s : Json} {fields : List (String × Json)} {k : String}
      (h : Remains treat defs r (.obj fields)) (hs : Shows defs fields k s)
      (hk : treat k = .nested) : Remains treat defs r s
  | property {r s : Json} {fields props : List (String × Json)} {k name : String}
      (h : Remains treat defs r (.obj fields)) (hp : Shows defs fields k (.obj props))
      (hk : treat k = .properties) (hs : (name, s) ∈ props) : Remains treat defs r s

/-- What is shown is written in a schema that is reached. -/
theorem written_of_shows {r : Json} {fields : List (String × Json)} {k : String} {v : Json}
    (h : Shows defs fields k v) (hr : Reaches defs r (.obj fields)) :
    ∃ fields', Reaches defs r (.obj fields') ∧ (k, v) ∈ fields' := by
  induction h with
  | own hv => exact ⟨_, hr, Assoc.mem_of_find? hv⟩
  | referred href hdef _ _ ih => exact ih (.refer hr href hdef)
  | single hall _ _ ih =>
    refine ih (.enter (.enter hr (.nested (Assoc.mem_of_find? hall) ?_)) (.item List.mem_cons_self))
    decide

theorem replaced_of_shows {r o : Json} (h : inlineBy (resolver defs) r = .ok o)
    {fields : List (String × Json)} (hr : Reaches defs r (.obj fields)) {k : String} {v : Json}
    (hv : Shows defs fields k v) :
    ∃ w, Replaced (inlineBy (resolver defs)) (inliningOf k) v w := by
  obtain ⟨fields', hr', hmem⟩ := written_of_shows hv hr
  obtain ⟨p, hp⟩ := inlineBy_of_reaches h hr'
  obtain ⟨_, ⟨kept, hkept, -⟩, -⟩ := inlineBy_obj.mp hp
  obtain ⟨q, -, -, hq⟩ :=
    exists_of_forall₂ hkept (List.mem_filter.mpr ⟨hmem, by simpa using hv.kept⟩)
  exact ⟨q.2, hq⟩

section Places

variable {r o : Json} (h : inlineBy (resolver defs) r = .ok o)
  (htreat : ∀ k, treat k = .nested ∨ treat k = .properties → inliningOf k = treat k)
include h htreat

omit h in
theorem reaches_of_remains {s : Json} (hs : Remains treat defs r s) : Reaches defs r s := by
  induction hs with
  | here => exact .here _
  | item _ hs ih => exact .enter ih (.item hs)
  | nested _ hs hk ih =>
    obtain ⟨fields, hr, hmem⟩ := written_of_shows hs ih
    exact .enter hr (.nested hmem ((htreat _ (Or.inl hk)).trans hk))
  | property _ hp hk hs ih =>
    obtain ⟨fields, hr, hmem⟩ := written_of_shows hp ih
    exact .enter hr (.property hmem ((htreat _ (Or.inr hk)).trans hk) hs)

theorem place_of_remains {s : Json} (hs : Remains treat defs r s) :
    ∃ p, inlineBy (resolver defs) s = .ok p ∧ Relation.ReflTransGen (EntersBy treat) o p := by
  induction hs with
  | here => exact ⟨o, h, .refl⟩
  | item _ hs ih =>
    obtain ⟨p, hp, hop⟩ := ih
    obtain ⟨os, hos, rfl⟩ := inlineBy_arr.mp hp
    obtain ⟨q, hq, hsq⟩ := exists_of_forall₂ hos hs
    exact ⟨q, hsq, hop.tail (.item hq)⟩
  | @nested s _ k hr hs hk ih =>
    obtain ⟨p, hp, hop⟩ := ih
    obtain ⟨w, hw⟩ := replaced_of_shows h (reaches_of_remains htreat hr) hs
    obtain ⟨merged, -, rfl⟩ := inlineBy_obj.mp hp
    have hfind := (traced_inlined hp k w).mpr ⟨s, hs, hw⟩
    rw [htreat k (Or.inl hk), hk] at hw
    exact ⟨w, replaced_nested.mp hw, hop.tail (.nested (Assoc.mem_of_find? hfind) hk)⟩
  | @property s _ props k name hr hp hk hs ih =>
    obtain ⟨p, hin, hop⟩ := ih
    obtain ⟨w, hw⟩ := replaced_of_shows h (reaches_of_remains htreat hr) hp
    obtain ⟨merged, -, rfl⟩ := inlineBy_obj.mp hin
    have hfind := (traced_inlined hin k w).mpr ⟨_, hp, hw⟩
    rw [htreat k (Or.inr hk), hk] at hw
    obtain ⟨ws, hws, rfl⟩ := replaced_properties.mp hw
    obtain ⟨⟨_, q⟩, hq, rfl, hsq⟩ := exists_of_forall₂ hws hs
    exact ⟨q, hsq, hop.tail (.property (Assoc.mem_of_find? hfind) hk hq)⟩

/-- Each place of an inlined schema was made of a schema that is known. -/
theorem remains_of_place
    (hkeys : ∀ fields, Reaches defs r (.obj fields) → (fields.map (·.1)).Nodup) {p : Json}
    (hp : Relation.ReflTransGen (EntersBy treat) o p) :
    ∃ s, Remains treat defs r s ∧ inlineBy (resolver defs) s = .ok p := by
  induction hp with
  | refl => exact ⟨r, .here r, h⟩
  | @tail p q _ hpq ih =>
    obtain ⟨s, hs, hin⟩ := ih
    cases hpq with
    | item hq =>
      obtain ⟨items, rfl, hos⟩ := inlineBy_eq_arr.mp hin
      obtain ⟨t, ht, htq⟩ := exists_of_forall₂ (List.Forall₂.flip hos) hq
      exact ⟨t, .item hs ht, htq⟩
    | @nested out k _ hmem hk =>
      obtain ⟨fields, _, rfl, -, -⟩ := inlineBy_eq_obj.mp hin
      obtain ⟨v, hv, hw⟩ := shows_of_mem hin (hkeys _ (reaches_of_remains htreat hs)) hmem
      rw [htreat k (Or.inl hk), hk] at hw
      exact ⟨v, .nested hs hv hk, replaced_nested.mp hw⟩
    | @property out props k name _ hmem hk hq =>
      obtain ⟨fields, _, rfl, -, -⟩ := inlineBy_eq_obj.mp hin
      obtain ⟨v, hv, hw⟩ := shows_of_mem hin (hkeys _ (reaches_of_remains htreat hs)) hmem
      rw [htreat k (Or.inr hk), hk] at hw
      obtain ⟨_, rfl, hprops⟩ := replaced_obj hw
      obtain ⟨⟨_, t⟩, ht, rfl, htq⟩ := exists_of_forall₂ (List.Forall₂.flip hprops) hq
      exact ⟨t, .property hs hv hk ht, htq⟩

end Places

/-- A schema that has no keyword to be dropped where inlining enters. -/
def Clean (s : Json) : Prop :=
  ∀ fields k v, Relation.ReflTransGen Enters s (.obj fields) → (k, v) ∈ fields →
    inliningOf k ≠ .drop

theorem clean_inlined {r o : Json} (h : inlineBy (resolver defs) r = .ok o)
    (hkeys : ∀ fields, Reaches defs r (.obj fields) → (fields.map (·.1)).Nodup) : Clean o := by
  intro out k w hout hmem
  obtain ⟨s, hs, hin⟩ := remains_of_place h (fun _ _ => rfl) hkeys hout
  obtain ⟨fields, _, rfl, -, -⟩ := inlineBy_eq_obj.mp hin
  obtain ⟨v, hv, -⟩ := shows_of_mem hin (hkeys fields (reaches_of_remains (fun _ _ => rfl) hs)) hmem
  exact hv.kept

end Schema
end PromptWeave
