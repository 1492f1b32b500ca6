import Mathlib.Data.List.Perm.Subperm
import PromptWeave.Proofs.Json.Distinct
import PromptWeave.Proofs.Schema.Inlining

/-! How references are resolved.
No reference is resolved while it is open, so no more can be open than there are definitions. What a
reference stands for depends neither on what is open nor on how much room is left. -/
namespace PromptWeave
namespace Schema

/-! ### More that can be resolved -/

section Monotone

variable {resolve resolve' : Resolver}

/-- What is kept is settled by what becomes of the schemas that are entered. -/
theorem Kept.imp {fields kept : List (String × Json)}
    (hin : ∀ t, Enters (.obj fields) t → ∀ o, inlineBy resolve t = .ok o →
      inlineBy resolve' t = .ok o)
    (h : Kept resolve fields kept) : Kept resolve' fields kept := by
  refine forall₂_imp_mem h ?_
  rintro ⟨k, v⟩ hp ⟨k', w⟩ ⟨hk, hw⟩
  have hmem := (List.mem_filter.mp hp).1
  refine ⟨hk, ?_⟩
  dsimp only at hw ⊢
  generalize ht : inliningOf k = t at hw ⊢
  cases hw with
  | nested h => exact .nested (hin v (.nested hmem ht) w h)
  | properties h =>
    refine .properties (forall₂_imp_mem h fun p hp q hpq => ⟨hpq.1, ?_⟩)
    exact hin p.2 (.property hmem ht hp) q.2 hpq.2
  | noProperties h => exact .noProperties h
  | keep => exact .keep v

theorem Merged.imp {fields merged : List (String × Json)}
    (hle : ∀ a f, resolve a = .ok f → resolve' a = .ok f)
    (hin : ∀ t, Enters (.obj fields) t → ∀ o, inlineBy resolve t = .ok o →
      inlineBy resolve' t = .ok o)
    (h : Merged resolve fields merged) : Merged resolve' fields merged := by
  obtain ⟨kept, hkept, hmerged⟩ := h
  refine ⟨kept, hkept.imp hin, ?_⟩
  cases href : Assoc.find? "$ref" fields with
  | none => simpa [href] using hmerged
  | some a =>
    rw [href] at hmerged
    obtain ⟨target, htarget, hm⟩ := hmerged
    exact ⟨target, hle a target htarget, hm⟩

/-- What is inlined stays the same when more can be resolved. -/
theorem inlineBy_mono (hle : ∀ a f, resolve a = .ok f → resolve' a = .ok f) (s : Json) :
    ∀ o, inlineBy resolve s = .ok o → inlineBy resolve' s = .ok o := by
  induction s using enters_induction with
  | step s ih =>
    intro o h
    have hin : ∀ t, Enters s t → ∀ o, inlineBy resolve t = .ok o → inlineBy resolve' t = .ok o :=
      fun t ht => ih t (.single ht)
    cases s with
    | arr items =>
      obtain ⟨os, hos, rfl⟩ := inlineBy_arr.mp h
      exact inlineBy_arr.mpr ⟨os, forall₂_imp_mem hos fun t ht o => hin t (.item ht) o, rfl⟩
    | obj fields =>
      obtain ⟨merged, hmerged, rfl⟩ := inlineBy_obj.mp h
      exact inlineBy_obj.mpr ⟨merged, hmerged.imp hle hin, rfl⟩
    | _ => simpa [inlineBy] using h

theorem Kept.mono (hle : ∀ a f, resolve a = .ok f → resolve' a = .ok f)
    {fields kept : List (String × Json)} (h : Kept resolve fields kept) :
    Kept resolve' fields kept :=
  h.imp fun t _ => inlineBy_mono hle t

theorem Merged.mono (hle : ∀ a f, resolve a = .ok f → resolve' a = .ok f)
    {fields merged : List (String × Json)} (h : Merged resolve fields merged) :
    Merged resolve' fields merged :=
  h.imp hle fun t _ => inlineBy_mono hle t

end Monotone

/-! ### Open references -/

variable {defs : Dict Json}

def resolveAt (defs : Dict Json) : Nat → List String → Resolver
  | 0, opened => resolveWith defs opened fun _ target => .ok target
  | fuel + 1, opened => resolveWith defs opened (inlineWithin defs fuel)

theorem inlineWithin_eq (fuel : Nat) (opened : List String) :
    inlineWithin defs fuel opened = inlineBy (resolveAt defs fuel opened) := by
  cases fuel <;> rfl

/-- The open references are definitions, none of them twice, and there is room for all others. -/
structure Room (defs : Dict Json) (fuel : Nat) (opened : List String) : Prop where
  distinct : opened.Nodup
  known : ∀ path ∈ opened, path ∈ defs.keys
  enough : defs.size ≤ fuel + opened.length

theorem mem_keys_of_find? {path : String} {target : Json} (h : defs.find? path = some target) :
    path ∈ defs.keys :=
  List.mem_map.mpr ⟨_, Assoc.mem_of_find? h, rfl⟩

theorem Room.start (defs : Dict Json) (fuel : Nat) (h : defs.size ≤ fuel) : Room defs fuel [] :=
  ⟨List.nodup_nil, by simp, by simpa using h⟩

theorem Room.next {fuel : Nat} {opened : List String} {path : String} {target : Json}
    (h : Room defs (fuel + 1) opened) (hnew : path ∉ opened)
    (hdef : defs.find? path = some target) : Room defs fuel (path :: opened) := by
  refine ⟨List.nodup_cons.mpr ⟨hnew, h.distinct⟩, fun p hp => ?_, ?_⟩
  · rcases List.mem_cons.mp hp with rfl | hp
    · exact mem_keys_of_find? hdef
    · exact h.known p hp
  · have henough := h.enough
    rw [List.length_cons]
    omega

/-- Without room for another reference all definitions are open. -/
theorem Room.full {opened : List String} (h : Room defs 0 opened) {path : String} {target : Json}
    (hdef : defs.find? path = some target) : path ∈ opened := by
  have hsub : opened.Subperm defs.keys := List.subperm_of_subset h.distinct h.known
  have hlength : defs.keys.length ≤ opened.length := by
    simpa [Dict.keys, Dict.size] using h.enough
  exact (hsub.perm_of_length_le hlength).mem_iff.mpr (mem_keys_of_find? hdef)

theorem resolveWith_eq_ok {opened : List String}
    {within : List String → Json → Except SchemaFault Json} {a : Json}
    {f : List (String × Json)} : resolveWith defs opened within a = .ok f ↔
      ∃ path target, a = .str path ∧ path ∉ opened ∧ defs.find? path = some target ∧
        within (path :: opened) target = .ok (.obj f) := by
  cases a with
  | str path =>
    rw [resolveWith]
    by_cases hopen : path ∈ opened
    · simp [hopen]
    · cases hdef : defs.find? path with
      | none => simp [hopen, hdef]
      | some target =>
        have hnot : ¬ opened.contains path = true := by simpa using hopen
        rw [if_neg hnot]
        cases hw : within (path :: opened) target with
        | error e => simp [hw, hdef, Bind.bind, Except.bind]
        | ok o =>
          cases o <;>
            simp [hw, hdef, hopen, Bind.bind, Except.bind, pure, Except.pure, throw, throwThe,
              MonadExceptOf.throw]
  | _ => simp [resolveWith]

theorem resolveAt_eq_ok {fuel : Nat} {opened : List String} (hroom : Room defs fuel opened)
    {a : Json} {f : List (String × Json)} (h : resolveAt defs fuel opened a = .ok f) :
    ∃ path target n, a = .str path ∧ path ∉ opened ∧ defs.find? path = some target ∧
      fuel = n + 1 ∧ inlineBy (resolveAt defs n (path :: opened)) target = .ok (.obj f) := by
  cases fuel with
  | zero =>
    rw [resolveAt] at h
    obtain ⟨path, target, -, hnew, hdef, -⟩ := resolveWith_eq_ok.mp h
    exact absurd (hroom.full hdef) hnew
  | succ n =>
    rw [resolveAt] at h
    obtain ⟨path, target, ha, hnew, hdef, hin⟩ := resolveWith_eq_ok.mp h
    exact ⟨path, target, n, ha, hnew, hdef, rfl, by rw [← inlineWithin_eq]; exact hin⟩

/-- With more room and less open the same references stand for the same. -/
theorem resolveAt_mono {fuel fuel' : Nat} {opened opened' : List String} (hfuel : fuel ≤ fuel')
    (hopen : opened' ⊆ opened) (hroom : Room defs fuel opened) {a : Json}
    {f : List (String × Json)} (h : resolveAt defs fuel opened a = .ok f) :
    resolveAt defs fuel' opened' a = .ok f := by
  induction fuel generalizing fuel' opened opened' a f with
  | zero =>
    obtain ⟨_, _, _, _, _, _, hzero, _⟩ := resolveAt_eq_ok hroom h
    cases hzero
  | succ n ih =>
    obtain ⟨path, target, _, rfl, hnew, hdef, hn, hin⟩ := resolveAt_eq_ok hroom h
    cases hn
    obtain ⟨m, rfl⟩ : ∃ m, fuel' = m + 1 := ⟨fuel' - 1, by omega⟩
    refine resolveWith_eq_ok.mpr ⟨path, target, rfl, fun hp => hnew (hopen hp), hdef, ?_⟩
    rw [inlineWithin_eq]
    refine inlineBy_mono (fun a f hf => ?_) target _ hin
    exact ih (by omega) (List.cons_subset_cons path hopen) (hroom.next hnew hdef) hf

/-- The resolver with nothing open and more room than is ever needed. -/
def resolver (defs : Dict Json) : Resolver := resolveAt defs (defs.size + 1) []

theorem resolver_of_resolveAt {fuel : Nat} {opened : List String} (hfuel : fuel ≤ defs.size + 1)
    (hroom : Room defs fuel opened) {a : Json} {f : List (String × Json)}
    (h : resolveAt defs fuel opened a = .ok f) : resolver defs a = .ok f :=
  resolveAt_mono hfuel (List.nil_subset opened) hroom h

theorem resolver_eq_ok {a : Json} {f : List (String × Json)} (h : resolver defs a = .ok f) :
    ∃ path target, a = .str path ∧ defs.find? path = some target ∧
      inlineBy (resolver defs) target = .ok (.obj f) := by
  have hroom := Room.start defs (defs.size + 1) (by omega)
  obtain ⟨path, target, _, ha, hnew, hdef, hn, hin⟩ := resolveAt_eq_ok hroom h
  cases hn
  refine ⟨path, target, ha, hdef, inlineBy_mono (fun a f hf => ?_) target _ hin⟩
  exact resolver_of_resolveAt (by omega) (hroom.next hnew hdef) hf

theorem inlineBy_of_inlineReferences {root out : Json} (h : inlineReferences root = .ok out) :
    inlineBy (resolver (definitions root)) root = .ok out := by
  rw [inlineReferences, inlineWithin_eq] at h
  exact inlineBy_mono (fun a f hf => resolver_of_resolveAt (by omega)
    (Room.start _ _ (Nat.le_refl _)) hf) root _ h

/-! ### What is reached -/

/-- The second schema is reached from the first by entering schemas and by following references. -/
inductive Reaches (defs : Dict Json) : Json → Json → Prop
  | here (s : Json) : Reaches defs s s
  | enter {s t u : Json} (h : Reaches defs s t) (ht : Enters t u) : Reaches defs s u
  | refer {s target : Json} {fields : List (String × Json)} {path : String}
      (h : Reaches defs s (.obj fields)) (href : Assoc.find? "$ref" fields = some (.str path))
      (hdef : defs.find? path = some target) : Reaches defs s target

theorem reaches_of_inside {r s t : Json} (h : Reaches defs r s)
    (ht : Relation.ReflTransGen Enters s t) : Reaches defs r t := by
  induction ht with
  | refl => exact h
  | tail _ ht ih => exact .enter ih ht

theorem Reaches.trans {r s t : Json} (h : Reaches defs r s) (ht : Reaches defs s t) :
    Reaches defs r t := by
  induction ht with
  | here => exact h
  | enter _ hu ih => exact .enter ih hu
  | refer _ href hdef ih => exact .refer ih href hdef

theorem inside_of_enters {r s t : Json} (hs : Json.Inside r s) (h : Enters s t) :
    Json.Inside r t := by
  cases h with
  | item h => exact .item hs h
  | nested h => exact .field hs h
  | property h _ hs' => exact .field (.field hs h) hs'

theorem inside_of_definition {root target : Json} {path : String}
    (h : (definitions root).find? path = some target) : Json.Inside root target := by
  obtain ⟨table, -, htable⟩ := List.mem_flatMap.mp (Dict.mem_of_find?_ofList h)
  cases root with
  | obj fields =>
    rw [Json.field?] at htable
    split at htable
    next defs hdefs =>
      obtain ⟨⟨name, s⟩, hs, he⟩ := List.mem_map.mp htable
      cases he
      exact .field (.field .here (Assoc.mem_of_find? hdefs)) hs
    next => simp at htable
  | _ => simp [Json.field?] at htable

theorem inside_of_reaches {root s : Json} (h : Reaches (definitions root) root s) :
    Json.Inside root s := by
  induction h with
  | here => exact .here
  | enter _ ht ih => exact inside_of_enters ih ht
  | refer _ _ hdef => exact inside_of_definition hdef

theorem inlineBy_of_enters {resolve : Resolver} {s t o : Json} (h : inlineBy resolve s = .ok o)
    (ht : Enters s t) : ∃ p, inlineBy resolve t = .ok p := by
  cases ht with
  | item ht =>
    obtain ⟨os, hos, -⟩ := inlineBy_arr.mp h
    obtain ⟨p, -, hp⟩ := exists_of_forall₂ hos ht
    exact ⟨p, hp⟩
  | nested hmem hk =>
    obtain ⟨_, ⟨kept, hkept, -⟩, -⟩ := inlineBy_obj.mp h
    obtain ⟨q, -, -, hq⟩ := exists_of_forall₂ hkept (List.mem_filter.mpr ⟨hmem, by simp [hk]⟩)
    rw [hk, replaced_nested] at hq
    exact ⟨q.2, hq⟩
  | @property _ props _ _ _ hmem hk hs =>
    obtain ⟨_, ⟨kept, hkept, -⟩, -⟩ := inlineBy_obj.mp h
    obtain ⟨q, -, -, hq⟩ := exists_of_forall₂ hkept (List.mem_filter.mpr ⟨hmem, by simp [hk]⟩)
    rw [hk, replaced_properties] at hq
    obtain ⟨ws, hws, -⟩ := hq
    obtain ⟨p, -, -, hp⟩ := exists_of_forall₂ hws hs
    exact ⟨p.2, hp⟩

theorem inlineBy_of_inside {resolve : Resolver} {s t o : Json} (h : inlineBy resolve s = .ok o)
    (ht : Relation.ReflTransGen Enters s t) : ∃ p, inlineBy resolve t = .ok p := by
  induction ht with
  | refl => exact ⟨o, h⟩
  | tail _ ht ih => exact inlineBy_of_enters ih.choose_spec ht

theorem resolve_of_inlineBy {resolve : Resolver} {fields : List (String × Json)} {o a : Json}
    (h : inlineBy resolve (.obj fields) = .ok o) (href : Assoc.find? "$ref" fields = some a) :
    ∃ f, resolve a = .ok f := by
  obtain ⟨merged, ⟨kept, -, hmerged⟩, -⟩ := inlineBy_obj.mp h
  rw [href] at hmerged
  obtain ⟨f, hf, -⟩ := hmerged
  exact ⟨f, hf⟩

/-- All that is reached from a schema that can be inlined can be inlined. -/
theorem inlineBy_of_reaches {r s o : Json} (h : inlineBy (resolver defs) r = .ok o)
    (hs : Reaches defs r s) : ∃ p, inlineBy (resolver defs) s = .ok p := by
  induction hs with
  | here => exact ⟨o, h⟩
  | enter _ ht ih => exact inlineBy_of_enters ih.choose_spec ht
  | refer _ href hdef ih =>
    obtain ⟨f, hf⟩ := resolve_of_inlineBy ih.choose_spec href
    obtain ⟨path, target, hpath, htarget, hin⟩ := resolver_eq_ok hf
    cases hpath
    cases hdef.symm.trans htarget
    exact ⟨_, hin⟩

/-- What holds of a schema whenever it holds of all schemas inside and of the target of its
reference holds of every schema that can be inlined. -/
theorem resolved_induction {motive : Json → Prop}
    (step : ∀ s o, inlineBy (resolver defs) s = .ok o →
      (∀ t, Relation.TransGen Enters s t → motive t) →
      (∀ fields path target, s = .obj fields → Assoc.find? "$ref" fields = some (.str path) →
        defs.find? path = some target → motive target) → motive s)
    {s o : Json} (h : inlineBy (resolver defs) s = .ok o) : motive s := by
  have hwithin : ∀ n, n ≤ defs.size + 1 → ∀ opened, Room defs n opened →
      ∀ s o, inlineBy (resolveAt defs n opened) s = .ok o → motive s := by
    intro n
    induction n using Nat.strongRecOn with
    | ind n ihn =>
      intro hn opened hroom s
      induction s using enters_induction with
      | step s ih =>
        intro o h
        have hmore := inlineBy_mono (fun a f hf => resolver_of_resolveAt hn hroom hf) s o h
        refine step s o hmore (fun t ht => ?inside) ?reference
        case inside =>
          obtain ⟨p, hp⟩ := inlineBy_of_inside h ht.to_reflTransGen
          exact ih t ht p hp
        case reference =>
          rintro fields path target rfl href hdef
          obtain ⟨f, hf⟩ := resolve_of_inlineBy h href
          obtain ⟨_, _, m, hpath, hnew, hdef', rfl, hin⟩ := resolveAt_eq_ok hroom hf
          cases hpath
          cases hdef.symm.trans hdef'
          exact ihn m (by omega) (by omega) _ (hroom.next hnew hdef) target _ hin
  exact hwithin _ (Nat.le_refl _) [] (Room.start defs _ (by omega)) s o h

end Schema
end PromptWeave
