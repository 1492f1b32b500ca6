import PromptWeave.Proofs.Schema.Cycles
import PromptWeave.Proofs.Schema.Opening

/-! Which schemas can be inlined.
A schema can be inlined exactly when each reference that is reached names an object in a table of
definitions at the root and no definition that is reached leads back to itself. A failure names a
reference that is reached and says what is wrong with it. -/
namespace PromptWeave
namespace Schema

/-- The reference stands in a schema that is reached from the root. -/
def Refers (root reference : Json) : Prop :=
  ∃ fields, Reaches (definitions root) root (.obj fields) ∧
    Assoc.find? "$ref" fields = some reference

def NamesObject (root reference : Json) : Prop :=
  ∃ table ∈ tableNames, ∃ name fields,
    reference = .str (referenceTo table name) ∧ Defines root table name (.obj fields)

/-- What is wrong with a reference that a failure names. -/
inductive Explained (root : Json) : SchemaFault → Prop
  | notString {reference : Json} (h : Refers root reference)
      (hno : ∀ path, reference ≠ .str path) : Explained root (.referenceNotString reference)
  | unresolved {path : String} (h : Refers root (.str path))
      (hno : ∀ table ∈ tableNames, ∀ name definition, path = referenceTo table name →
        ¬ Defines root table name definition) : Explained root (.unresolvedReference path)
  | notObject {table name : String} {definition out : Json} (ht : table ∈ tableNames)
      (h : Refers root (.str (referenceTo table name))) (hdef : Defines root table name definition)
      (hno : ∀ fields, definition ≠ .obj fields)
      (hout : inlineBy (resolver (definitions root)) definition = .ok out) :
      Explained root (.referenceNotObject (referenceTo table name) out)
  | recursive {path : String} (h : Refers root (.str path))
      (hcycle : Relation.TransGen (LeadsTo (definitions root)) path path) :
      Explained root (.recursiveReference path)

variable {root : Json}

/-! ### What failures say -/

theorem resolveWith_eq_error {defs : Dict Json} {opened : List String}
    {within : List String → Json → Except SchemaFault Json} {path : String} {fault : SchemaFault}
    (h : resolveWith defs opened within (.str path) = .error fault) :
    (path ∈ opened ∧ fault = .recursiveReference path) ∨
      (defs.find? path = none ∧ fault = .unresolvedReference path) ∨
      ∃ target, path ∉ opened ∧ defs.find? path = some target ∧
        (within (path :: opened) target = .error fault ∨
          ∃ o, within (path :: opened) target = .ok o ∧ (∀ fields, o ≠ .obj fields) ∧
            fault = .referenceNotObject path o) := by
  rw [resolveWith_str] at h
  split at h
  next hopen =>
    cases h
    exact Or.inl ⟨by simpa using hopen, rfl⟩
  next hnew =>
    refine Or.inr ?_
    cases hdef : defs.find? path with
    | none =>
      rw [hdef] at h
      cases h
      exact Or.inl ⟨rfl, rfl⟩
    | some target =>
      simp only [hdef, bind_eq_error] at h
      refine Or.inr ⟨target, by simpa using hnew, rfl, h.imp_right ?_⟩
      rintro ⟨o, ho, hfields⟩
      cases o with
      | obj fields => cases hfields
      | _ =>
        cases hfields
        exact ⟨_, ho, by simp, rfl⟩

theorem not_obj_of_inlineBy {resolve : Resolver} {s o : Json} (h : inlineBy resolve s = .ok o)
    (ho : ∀ fields, o ≠ .obj fields) : ∀ fields, s ≠ .obj fields := by
  rintro fields rfl
  obtain ⟨merged, -, rfl⟩ := inlineBy_obj.mp h
  exact ho _ rfl

theorem resolveAt_of_notString {defs : Dict Json} {fuel : Nat} {opened : List String} {a : Json}
    (h : ∀ path, a ≠ .str path) :
    resolveAt defs fuel opened a = .error (.referenceNotString a) := by
  cases a with
  | str path => exact absurd rfl (h path)
  | _ => cases fuel <;> rfl

theorem resolveAt_eq_error {defs : Dict Json} {fuel : Nat} {opened : List String}
    (hroom : Room defs fuel opened) {path : String} {fault : SchemaFault}
    (h : resolveAt defs fuel opened (.str path) = .error fault) :
    (path ∈ opened ∧ fault = .recursiveReference path) ∨
      (defs.find? path = none ∧ fault = .unresolvedReference path) ∨
      ∃ target n, path ∉ opened ∧ defs.find? path = some target ∧ fuel = n + 1 ∧
        (inlineWithin defs n (path :: opened) target = .error fault ∨
          ∃ o, inlineWithin defs n (path :: opened) target = .ok o ∧
            (∀ fields, o ≠ .obj fields) ∧ fault = .referenceNotObject path o) := by
  cases fuel with
  | zero =>
    rw [resolveAt] at h
    refine (resolveWith_eq_error h).imp_right (Or.imp_right ?_)
    rintro ⟨target, hnew, hdef, -⟩
    exact absurd (hroom.full hdef) hnew
  | succ n =>
    rw [resolveAt] at h
    refine (resolveWith_eq_error h).imp_right (Or.imp_right ?_)
    rintro ⟨target, hnew, hdef, hwithin⟩
    exact ⟨target, n, hnew, hdef, rfl, hwithin⟩

/-- A failure is explained when all open references name definitions that lead to the schema. -/
theorem explained_inlineWithin {fuel : Nat} {opened : List String} {s : Json} {fault : SchemaFault}
    (hfuel : fuel ≤ (definitions root).size) (hroom : Room (definitions root) fuel opened)
    (hs : Reaches (definitions root) root s)
    (hopened : ∀ path ∈ opened, ∃ target, (definitions root).find? path = some target ∧
      Reaches (definitions root) target s)
    (h : inlineWithin (definitions root) fuel opened s = .error fault) : Explained root fault := by
  induction fuel using Nat.strongRecOn generalizing opened s with
  | ind fuel ih =>
    rw [inlineWithin_eq] at h
    obtain ⟨fields, a, hin, href, ha⟩ := reference_of_error s h
    have hfields := reaches_of_inside hs hin
    have hrefers : Refers root a := ⟨fields, hfields, href⟩
    by_cases hstr : ∃ path, a = .str path
    · obtain ⟨path, rfl⟩ := hstr
      rcases resolveAt_eq_error hroom ha with ⟨hopen, rfl⟩ | ⟨hnone, rfl⟩ |
        ⟨target, n, hnew, hdef, rfl, hwithin⟩
      · obtain ⟨target, hdef, hreach⟩ := hopened path hopen
        exact .recursive hrefers (leadsTo_of_reaches hdef (reaches_of_inside hreach hin) href)
      · refine .unresolved hrefers fun table ht name definition hpath hdef => ?_
        cases hnone.symm.trans (find?_definitions.mpr ⟨table, ht, name, hpath, hdef⟩)
      -- the definition is reached too, and all open references lead to it
      · have hnext := hroom.next hnew hdef
        rcases hwithin with hfault | ⟨o, ho, hno, rfl⟩
        · refine ih n (by omega) (by omega) hnext (.refer hfields href hdef) (fun p hp => ?_) hfault
          rcases List.mem_cons.mp hp with rfl | hp
          · exact ⟨target, hdef, .here target⟩
          · obtain ⟨t, ht, hreach⟩ := hopened p hp
            exact ⟨t, ht, .refer (reaches_of_inside hreach hin) href hdef⟩
        · obtain ⟨table, ht, name, rfl, hdef'⟩ := find?_definitions.mp hdef
          rw [inlineWithin_eq] at ho
          refine .notObject ht hrefers hdef' (not_obj_of_inlineBy ho hno) ?_
          exact inlineBy_mono (fun _ _ => resolver_of_resolveAt (by omega) hnext) target o ho
    · have hno : ∀ path, a ≠ .str path := fun path he => hstr ⟨path, he⟩
      rw [resolveAt_of_notString hno] at ha
      cases ha
      exact .notString hrefers hno

theorem explained {fault : SchemaFault} (h : inlineReferences root = .error fault) :
    Explained root fault :=
  explained_inlineWithin (Nat.le_refl _) (Room.start _ _ (Nat.le_refl _)) (.here root) (by simp) h

/-! ### When there is none -/

theorem namesObject_of_inlined {out reference : Json} (h : inlineReferences root = .ok out)
    (href : Refers root reference) : NamesObject root reference := by
  obtain ⟨fields, hfields, hfind⟩ := href
  obtain ⟨p, hp⟩ := inlineBy_of_reaches (inlineBy_of_inlineReferences h) hfields
  obtain ⟨f, hf⟩ := resolve_of_inlineBy hp hfind
  obtain ⟨path, target, rfl, hdef, htarget⟩ := resolver_eq_ok hf
  obtain ⟨fields', merged, rfl, -, -⟩ := inlineBy_eq_obj.mp htarget
  obtain ⟨table, ht, name, rfl, hdef'⟩ := find?_definitions.mp hdef
  exact ⟨table, ht, name, fields', rfl, hdef'⟩

theorem acyclic_of_inlined {out : Json} {path : String} (h : inlineReferences root = .ok out)
    (href : Refers root (.str path)) :
    ¬ Relation.TransGen (LeadsTo (definitions root)) path path := by
  intro hcycle
  obtain ⟨next, ⟨target, _, hdef, -⟩, -⟩ := Relation.TransGen.head'_iff.mp hcycle
  obtain ⟨fields, hfields, hfind⟩ := href
  obtain ⟨p, hp⟩ := inlineBy_of_reaches (inlineBy_of_inlineReferences h)
    (.refer hfields hfind hdef)
  exact not_next_self hp (next_of_leadsTo hcycle hdef hdef)

theorem Explained.contradicts {fault : SchemaFault} (h : Explained root fault)
    (hnames : ∀ reference, Refers root reference → NamesObject root reference)
    (hacyclic : ∀ path, Refers root (.str path) →
      ¬ Relation.TransGen (LeadsTo (definitions root)) path path) : False := by
  cases h with
  | notString h hno =>
    obtain ⟨table, _, name, _, he, _⟩ := hnames _ h
    exact hno _ he
  | unresolved h hno =>
    obtain ⟨table, ht, name, fields, he, hdef⟩ := hnames _ h
    cases he
    exact hno table ht name _ rfl hdef
  | notObject ht h hdef hno =>
    obtain ⟨table', ht', name', fields, he, hdef'⟩ := hnames _ h
    have hfind := find?_definitions.mpr ⟨_, ht, _, rfl, hdef⟩
    rw [Json.str.inj he] at hfind
    cases hfind.symm.trans (find?_definitions.mpr ⟨table', ht', name', rfl, hdef'⟩)
    exact hno fields rfl
  | recursive h hcycle => exact hacyclic _ h hcycle

/-- Inlining succeeds exactly when each reference that is reached names an object in a table of
definitions and no reference that is reached leads back to itself; a failure names a reference that
is reached and what is wrong with it. Inlining ends when there is room for all definitions, and every
call leaves the list of open references as it was. -/
theorem inlineReferences_ok_iff (root : Json) :
    ((∃ out, inlineReferences root = .ok out) ↔
      (∀ reference, Refers root reference → NamesObject root reference) ∧
        ∀ path, Refers root (.str path) →
          ¬ Relation.TransGen (LeadsTo (definitions root)) path path) ∧
    (∀ fault, inlineReferences root = .error fault → Explained root fault) ∧
    (∀ fuel, (definitions root).size ≤ fuel →
      inlineOpening (definitions root) fuel root [] = some (inlineReferences root, [])) ∧
    ∀ defs fuel s opened result after,
      inlineOpening defs fuel s opened = some (result, after) → after = opened := by
  refine ⟨⟨?_, ?_⟩, fun fault h => explained h, fun fuel hfuel => ?_,
    fun defs fuel s opened => balanced_inlineOpening fuel s opened⟩
  · rintro ⟨out, h⟩
    exact ⟨fun reference => namesObject_of_inlined h, fun path => acyclic_of_inlined h⟩
  · rintro ⟨hnames, hacyclic⟩
    cases h : inlineReferences root with
    | ok out => exact ⟨out, rfl⟩
    | error fault => exact absurd (explained h) fun hf => hf.contradicts hnames hacyclic
  · rw [inlineOpening_eq (Room.start _ _ hfuel), inlineWithin_fuel hfuel]

def sharedFields : List (String × Json) :=
  [("anyOf", .arr [.obj [("$ref", .str "#/definitions/B")], .obj [("$ref", .str "#/$defs/A")]]),
    ("$defs", .obj [("A", .obj [("type", .str "string")])]),
    ("definitions", .obj [("B", .obj [("items", .obj [("$ref", .str "#/$defs/A")])])])]

def cyclicFields : List (String × Json) :=
  [("$ref", .str "#/definitions/A"),
    ("definitions", .obj [("A", .obj [("items", .obj [("$ref", .str "#/definitions/A")])])])]

theorem inlineReferences_shared : inlineReferences (.obj sharedFields) =
    .ok (.obj [("anyOf", .arr [.obj [("items", .obj [("type", .str "string")])],
      .obj [("type", .str "string")]])]) := by
  have hdefs : definitions (.obj sharedFields) = Dict.ofList
      [("#/definitions/B", .obj [("items", .obj [("$ref", .str "#/$defs/A")])]),
        ("#/$defs/A", .obj [("type", .str "string")])] := rfl
  have hsize : (definitions (.obj sharedFields)).size = 2 := by decide
  rw [inlineReferences, hsize, hdefs]
  simp [inlineWithin, sharedFields, inlineBy, inlineAllBy, inlineFieldsBy, inlineFieldBy,
    inliningOf, resolveWith, mergeMissing, mergeSingle, Dict.find?_ofList, Assoc.find?_cons,
    Assoc.insert, Bind.bind, Except.bind, pure, Except.pure]

theorem inlineReferences_cyclic : inlineReferences (.obj cyclicFields) =
    .error (.recursiveReference "#/definitions/A") := by
  have hdefs : definitions (.obj cyclicFields) = Dict.ofList
      [("#/definitions/A", .obj [("items", .obj [("$ref", .str "#/definitions/A")])])] := rfl
  have hsize : (definitions (.obj cyclicFields)).size = 1 := by decide
  rw [inlineReferences, hsize, hdefs]
  simp [inlineWithin, cyclicFields, inlineBy, inlineFieldsBy, inlineFieldBy, inliningOf,
    resolveWith, Dict.find?_ofList, Assoc.find?_cons, Bind.bind, Except.bind]

theorem inlineReferences_ok_iff_shared :
    (∀ path, Refers (.obj sharedFields) (.str path) →
      ¬ Relation.TransGen (LeadsTo (definitions (.obj sharedFields))) path path) ∧
    ¬ ∀ path, Refers (.obj cyclicFields) (.str path) →
      ¬ Relation.TransGen (LeadsTo (definitions (.obj cyclicFields))) path path := by
  have hshared := (inlineReferences_ok_iff (.obj sharedFields)).1.mp ⟨_, inlineReferences_shared⟩
  have hcyclic := (inlineReferences_ok_iff (.obj cyclicFields)).2.1 _ inlineReferences_cyclic
  refine ⟨hshared.2, fun hacyclic => ?_⟩
  cases hcyclic with
  | recursive h hcycle => exact hacyclic _ h hcycle

end Schema
end PromptWeave
