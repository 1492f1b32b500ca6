import PromptWeave.Proofs.Schema.Resolving

/-! Definitions that lead to one another.
A definition leads to the references inside it. Where a schema fails, a reference inside it does, and
from a schema that can be inlined no way along references leads back to it. -/
namespace PromptWeave
namespace Schema

/-! ### Tables of definitions -/

def Defines (root : Json) (table name : String) (definition : Json) : Prop :=
  ∃ entries, root.field? table = some (.obj entries) ∧
    (Dict.ofList entries).find? name = some definition

theorem referenceTo_inj {table name name' : String}
    (h : referenceTo table name = referenceTo table name') : name = name' := by
  rw [referenceTo, referenceTo] at h
  exact (String.append_right_inj _).mp h

theorem referenceTo_ne (name name' : String) :
    referenceTo "definitions" name ≠ referenceTo "$defs" name' := by
  intro h
  have hchars := congrArg String.toList h
  simp [referenceTo] at hchars

theorem find?_referenceTo {table path : String} {entries : List (String × Json)} {v : Json} :
    Assoc.find? path (entries.map fun (name, s) => (referenceTo table name, s)) = some v ↔
      ∃ name, path = referenceTo table name ∧ Assoc.find? name entries = some v := by
  induction entries with
  | nil => simp
  | cons p entries ih =>
    obtain ⟨k, w⟩ := p
    rw [List.map_cons, Assoc.find?_cons]
    by_cases hk : referenceTo table k = path
    · subst hk
      rw [if_pos rfl]
      constructor
      · intro h
        exact ⟨k, rfl, by rw [Assoc.find?_cons, if_pos rfl, h]⟩
      · rintro ⟨name, hname, h⟩
        rw [Assoc.find?_cons, if_pos (referenceTo_inj hname)] at h
        exact h
    · rw [if_neg hk, ih]
      refine exists_congr fun name => and_congr_right ?_
      rintro rfl
      have hne : k ≠ name := fun he => hk (he ▸ rfl)
      rw [Assoc.find?_cons, if_neg hne]

def tableEntries (root : Json) (table : String) : List (String × Json) :=
  match root.field? table with
  | some (.obj entries) => entries.map fun (name, s) => (referenceTo table name, s)
  | _ => []

theorem definitions_eq (root : Json) :
    definitions root = Dict.ofList (tableEntries root "definitions" ++ tableEntries root "$defs") := by
  rw [definitions, tableNames, List.flatMap_cons, List.flatMap_singleton]
  rfl

theorem find?_tableEntries {root : Json} {table path : String} {v : Json} :
    Assoc.find? path (tableEntries root table).reverse = some v ↔
      ∃ name, path = referenceTo table name ∧ Defines root table name v := by
  rw [tableEntries]
  split
  next entries hentries =>
    rw [← List.map_reverse, find?_referenceTo]
    simp [Defines, hentries, Dict.find?_ofList]
  next hno =>
    constructor
    · intro h
      cases h
    · rintro ⟨name, -, entries, hentries, -⟩
      exact absurd hentries (hno entries)

theorem find?_definitions {root : Json} {path : String} {v : Json} :
    (definitions root).find? path = some v ↔
      ∃ table ∈ tableNames, ∃ name, path = referenceTo table name ∧ Defines root table name v := by
  rw [definitions_eq, Dict.find?_ofList, List.reverse_append, Assoc.find?_append,
    Option.or_eq_some_iff, find?_tableEntries, find?_tableEntries]
  constructor
  · rintro (⟨name, hpath, hdef⟩ | ⟨-, name, hpath, hdef⟩)
    · exact ⟨"$defs", by simp [tableNames], name, hpath, hdef⟩
    · exact ⟨"definitions", by simp [tableNames], name, hpath, hdef⟩
  · rintro ⟨table, ht, name, hpath, hdef⟩
    rcases List.mem_pair.mp ht with rfl | rfl
    · refine Or.inr ⟨Option.eq_none_iff_forall_ne_some.mpr fun w hw => ?_, name, hpath, hdef⟩
      obtain ⟨other, hother, -⟩ := find?_tableEntries.mp hw
      exact referenceTo_ne name other (hpath.symm.trans hother)
    · exact Or.inl ⟨name, hpath, hdef⟩

/-! ### Ways through the definitions -/

section Ways

variable {defs : Dict Json}

/-- The second schema is entered from the first or is the target of its reference. -/
inductive Next (defs : Dict Json) : Json → Json → Prop
  | enter {s t : Json} (h : Enters s t) : Next defs s t
  | refer {fields : List (String × Json)} {path : String} {target : Json}
      (href : Assoc.find? "$ref" fields = some (.str path))
      (hdef : defs.find? path = some target) : Next defs (.obj fields) target

def LeadsTo (defs : Dict Json) (path next : String) : Prop :=
  ∃ target fields, defs.find? path = some target ∧
    Relation.ReflTransGen Enters target (.obj fields) ∧
    Assoc.find? "$ref" fields = some (.str next)

theorem next_of_leadsTo {p q : String} {target target' : Json}
    (h : Relation.TransGen (LeadsTo defs) p q) (hp : defs.find? p = some target)
    (hq : defs.find? q = some target') : Relation.TransGen (Next defs) target target' := by
  have hone : ∀ {p q : String} {s t : Json}, LeadsTo defs p q → defs.find? p = some s →
      defs.find? q = some t → Relation.TransGen (Next defs) s t := by
    rintro p q s t ⟨_, fields, hs', hin, href⟩ hs ht
    cases hs.symm.trans hs'
    have hway : Relation.ReflTransGen (Next defs) s (.obj fields) :=
      Relation.ReflTransGen.mono (fun _ _ => Next.enter) _ _ hin
    exact Relation.TransGen.tail' hway (.refer href ht)
  induction h generalizing target' with
  | single h => exact hone h hp hq
  | tail _ h ih =>
    have hleads := h
    obtain ⟨between, _, hbetween, -⟩ := hleads
    exact (ih hbetween).trans (hone h hbetween hq)

/-- What is reached from a definition is reached through definitions that lead to one another. -/
theorem leadsTo_of_reaches {path next : String} {target : Json} {fields : List (String × Json)}
    (hdef : defs.find? path = some target) (h : Reaches defs target (.obj fields))
    (href : Assoc.find? "$ref" fields = some (.str next)) :
    Relation.TransGen (LeadsTo defs) path next := by
  have hlast : ∀ s, Reaches defs target s → ∃ last t,
      Relation.ReflTransGen (LeadsTo defs) path last ∧ defs.find? last = some t ∧
        Relation.ReflTransGen Enters t s := by
    intro s hs
    induction hs with
    | here => exact ⟨path, target, .refl, hdef, .refl⟩
    | enter _ hu ih =>
      obtain ⟨last, t, hlast, ht, hin⟩ := ih
      exact ⟨last, t, hlast, ht, hin.tail hu⟩
    | refer _ href hdef' ih =>
      obtain ⟨last, t, hlast, ht, hin⟩ := ih
      exact ⟨_, _, hlast.tail ⟨t, _, ht, hin, href⟩, hdef', .refl⟩
  obtain ⟨last, t, hlast, ht, hin⟩ := hlast _ h
  exact Relation.TransGen.tail' hlast ⟨t, fields, ht, hin, href⟩

/-- No way leads from a schema that can be inlined back to it. -/
theorem not_next_self {s o : Json} (h : inlineBy (resolver defs) s = .ok o) :
    ¬ Relation.TransGen (Next defs) s s := by
  refine resolved_induction (motive := fun s => ¬ Relation.TransGen (Next defs) s s) ?_ h
  intro s o _ hin htarget hcycle
  -- a way from the schema to itself is one from the next schema on it to that schema, too
  obtain ⟨t, hst, hts⟩ := Relation.TransGen.head'_iff.mp hcycle
  have hcycle' : Relation.TransGen (Next defs) t t := Relation.TransGen.tail' hts hst
  cases hst with
  | enter ht => exact hin t (.single ht) hcycle'
  | refer href hdef => exact htarget _ _ _ rfl href hdef hcycle'

end Ways

/-! ### Failures -/

theorem treated_eq_error {f : Json → Except SchemaFault Json} {t : Treatment} {v : Json}
    {fault : SchemaFault} (h : treated f t v = .error fault) :
    (t = .nested ∧ f v = .error fault) ∨
      ∃ props, t = .properties ∧ v = .obj props ∧ ∃ p ∈ props, f p.2 = .error fault := by
  cases t with
  | nested =>
    rw [treated, bind_eq_error] at h
    rcases h with h | ⟨w, -, hw⟩
    · exact Or.inl ⟨rfl, h⟩
    · cases hw
  | properties =>
    cases v with
    | obj props =>
      rw [treated, bind_eq_error] at h
      rcases h with h | ⟨ws, -, hws⟩
      · obtain ⟨p, hp, hfault⟩ := mapM_eq_error h
        rw [bind_eq_error] at hfault
        rcases hfault with hfault | ⟨w, -, hw⟩
        · exact Or.inr ⟨props, rfl, rfl, p, hp, hfault⟩
        · cases hw
      · cases hws
    | _ => cases h
  | _ => cases h

variable {resolve : Resolver} {fault : SchemaFault}

theorem inlineFieldsBy_eq_error {fields : List (String × Json)}
    (h : inlineFieldsBy resolve fields = .error fault) :
    ∃ p ∈ fields, treated (inlineBy resolve) (inliningOf p.1) p.2 = .error fault := by
  induction fields with
  | nil =>
    rw [inlineFieldsBy] at h
    cases h
  | cons p fields ih =>
    obtain ⟨k, v⟩ := p
    rw [inlineFieldsBy, bind_eq_error, inlineFieldBy_eq] at h
    rcases h with h | ⟨r, -, hrest⟩
    · exact ⟨_, List.mem_cons_self, h⟩
    · have hfields : inlineFieldsBy resolve fields = .error fault := by
        cases r with
        | none => exact hrest
        | some w =>
          rcases bind_eq_error.mp hrest with hfields | ⟨ws, -, hws⟩
          · exact hfields
          · cases hws
      obtain ⟨q, hq, hfault⟩ := ih hfields
      exact ⟨q, List.mem_cons_of_mem _ hq, hfault⟩

theorem inlineBy_eq_error {s : Json} (h : inlineBy resolve s = .error fault) :
    (∃ t, Enters s t ∧ inlineBy resolve t = .error fault) ∨
      ∃ fields a, s = .obj fields ∧ Assoc.find? "$ref" fields = some a ∧
        resolve a = .error fault := by
  cases s with
  | arr items =>
    rw [inlineBy, bind_eq_error, inlineAllBy_eq_mapM] at h
    rcases h with h | ⟨os, -, hos⟩
    · obtain ⟨t, ht, hfault⟩ := mapM_eq_error h
      exact Or.inl ⟨t, .item ht, hfault⟩
    · cases hos
  | obj fields =>
    rw [inlineBy, bind_eq_error] at h
    rcases h with h | ⟨kept, -, hrest⟩
    · obtain ⟨⟨k, v⟩, hp, hfault⟩ := inlineFieldsBy_eq_error h
      rcases treated_eq_error hfault with ⟨hk, hv⟩ | ⟨props, hk, rfl, q, hq, hv⟩
      · exact Or.inl ⟨v, .nested hp hk, hv⟩
      · exact Or.inl ⟨q.2, .property hp hk hq, hv⟩
    · cases href : Assoc.find? "$ref" fields with
      | none =>
        rw [href] at hrest
        cases hrest
      | some a =>
        simp only [href, bind_eq_error] at hrest
        rcases hrest with ha | ⟨target, -, htarget | ⟨merged, -, hmerged⟩⟩
        · exact Or.inr ⟨fields, a, rfl, href, ha⟩
        · cases htarget
        · cases hmerged
  | _ =>
    rw [inlineBy] at h
    · cases h
    all_goals simp

/-- A failure is that of a reference inside. -/
theorem reference_of_error (s : Json) (h : inlineBy resolve s = .error fault) :
    ∃ fields a, Relation.ReflTransGen Enters s (.obj fields) ∧
      Assoc.find? "$ref" fields = some a ∧ resolve a = .error fault := by
  induction s using enters_induction with
  | step s ih =>
    rcases inlineBy_eq_error h with ⟨t, ht, hfault⟩ | ⟨fields, a, rfl, href, ha⟩
    · obtain ⟨fields, a, hin, href, ha⟩ := ih t (.single ht) hfault
      exact ⟨fields, a, .head ht hin, href, ha⟩
    · exact ⟨fields, a, .refl, href, ha⟩

end Schema
end PromptWeave
