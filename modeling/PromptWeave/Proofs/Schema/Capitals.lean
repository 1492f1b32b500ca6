import PromptWeave.Proofs.Json.Distinct
import PromptWeave.Proofs.Schema.Inlining
import PromptWeave.Schema.Adaptation

/-! How types are put in capitals, place by place.
One field gives none, one or, for a union of types, two fields; all other schemas are treated as by
any pass. -/
namespace PromptWeave
namespace Schema

inductive Piece : String → Json → List (String × Json) → Prop
  | type {v : Json} {new : List (String × Json)} (h : capitalType v = .ok new) : Piece "type" v new
  | dropped {k : String} (v : Json) (hk : k ≠ "type") (h : capitalizing k = .drop) : Piece k v []
  | replaced {k : String} {v w : Json} (hk : k ≠ "type")
      (h : Replaced capitalize (capitalizing k) v w) : Piece k v [(k, w)]

theorem capitalizeAll_eq_mapM (items : List Json) :
    capitalizeAll items = items.mapM capitalize := by
  induction items with
  | nil =>
    rw [capitalizeAll, List.mapM_nil]
    rfl
  | cons s items ih => rw [capitalizeAll, List.mapM_cons, ih]

theorem capitalizeProperties_eq_mapM (props : List (String × Json)) :
    capitalizeProperties props = props.mapM fun p => do return (p.1, ← capitalize p.2) := by
  induction props with
  | nil =>
    rw [capitalizeProperties, List.mapM_nil]
    rfl
  | cons p props ih =>
    obtain ⟨name, s⟩ := p
    rw [capitalizeProperties, List.mapM_cons, ih]
    simp only [bind_assoc, pure_bind]

theorem capitalizeField_eq (t : Treatment) (v : Json) :
    capitalizeField t v = treated capitalize t v := by
  cases t with
  | properties => cases v <;> simp only [capitalizeField, treated, capitalizeProperties_eq_mapM]
  | _ => simp only [capitalizeField, treated]

@[simp] theorem piece_type {v : Json} {new : List (String × Json)} :
    Piece "type" v new ↔ capitalType v = .ok new := by
  constructor
  · intro h
    cases h with
    | type h => exact h
    | dropped _ hk => exact absurd rfl hk
    | replaced hk => exact absurd rfl hk
  · exact .type

theorem piece_of_ne {k : String} (hk : k ≠ "type") {v : Json} {new : List (String × Json)} :
    Piece k v new ↔ ∃ r, treated capitalize (capitalizing k) v = .ok r ∧
      new = r.toList.map fun w => (k, w) := by
  simp only [treated_eq_ok]
  constructor
  · intro h
    cases h with
    | type => exact absurd rfl hk
    | dropped _ _ hdrop => exact ⟨none, Or.inl ⟨hdrop, rfl⟩, rfl⟩
    | @replaced _ _ w _ hw => exact ⟨some w, Or.inr ⟨w, hw, rfl⟩, rfl⟩
  · rintro ⟨_, ⟨hdrop, rfl⟩ | ⟨w, hw, rfl⟩, rfl⟩
    · exact .dropped v hk hdrop
    · exact .replaced hk hw

theorem capitalizeFields_eq_ok {fields parts : List (String × Json)} :
    capitalizeFields fields = .ok parts ↔
      ∃ pieces, List.Forall₂ (fun p => Piece p.1 p.2) fields pieces ∧ parts = pieces.flatten := by
  induction fields generalizing parts with
  | nil => simp [capitalizeFields, eq_comm]
  | cons p fields ih =>
    obtain ⟨k, v⟩ := p
    have hcons : capitalizeFields ((k, v) :: fields) = .ok parts ↔
        ∃ new, Piece k v new ∧ ∃ more, capitalizeFields fields = .ok more ∧
          new ++ more = parts := by
      rw [capitalizeFields]
      by_cases hk : k = "type"
      · subst hk
        simp only [if_true, bind_eq_ok, pure_eq_ok, piece_type]
      · simp only [if_neg hk, bind_eq_ok, pure_eq_ok, capitalizeField_eq, piece_of_ne hk]
        constructor
        · rintro ⟨r, hr, _, rfl, h⟩
          exact ⟨_, ⟨r, hr, rfl⟩, h⟩
        · rintro ⟨_, ⟨r, hr, rfl⟩, h⟩
          exact ⟨r, hr, _, rfl, h⟩
    simp only [hcons, ih, List.forall₂_cons_left_iff]
    constructor
    · rintro ⟨new, hnew, _, ⟨pieces, hpieces, rfl⟩, rfl⟩
      exact ⟨_, ⟨new, pieces, hnew, hpieces, rfl⟩, rfl⟩
    · rintro ⟨_, ⟨new, pieces, hnew, hpieces, rfl⟩, rfl⟩
      exact ⟨new, hnew, _, ⟨pieces, hpieces, rfl⟩, rfl⟩

theorem capitalize_arr {items : List Json} {o : Json} : capitalize (.arr items) = .ok o ↔
    ∃ os, List.Forall₂ (fun s o => capitalize s = .ok o) items os ∧ o = .arr os := by
  simp only [capitalize, bind_eq_ok, pure_eq_ok, capitalizeAll_eq_mapM, mapM_eq_ok]
  exact exists_congr fun os => and_congr_right fun _ => eq_comm

theorem capitalize_obj {fields : List (String × Json)} {o : Json} :
    capitalize (.obj fields) = .ok o ↔
      ∃ pieces, List.Forall₂ (fun p => Piece p.1 p.2) fields pieces ∧
        o = .obj (Assoc.ofList pieces.flatten) := by
  simp only [capitalize, bind_eq_ok, pure_eq_ok, capitalizeFields_eq_ok]
  constructor
  · rintro ⟨_, ⟨pieces, hpieces, rfl⟩, rfl⟩
    exact ⟨pieces, hpieces, rfl⟩
  · rintro ⟨pieces, hpieces, rfl⟩
    exact ⟨_, ⟨pieces, hpieces, rfl⟩, rfl⟩

/-! ### What stands in an object -/

theorem capitalType_eq_ok {v : Json} {new : List (String × Json)} (h : capitalType v = .ok new) :
    (∃ t, new = [("type", .str t)] ∧ ∀ ts, v = .arr ts → ts.length = 1) ∨
    (∃ t ts, v = .arr ts ∧ ts.length ≠ 1 ∧ new = [("type", .str t), ("nullable", .bool true)]) ∨
    (∀ ts, v ≠ .arr ts) ∧ new = [("type", v)] := by
  cases v with
  | str t =>
    cases h
    exact Or.inl ⟨_, rfl, by simp⟩
  | arr ts =>
    rw [capitalType] at h
    split at h
    next t _ =>
      split_ifs at h with hlength
      · cases h
        exact Or.inl ⟨_, rfl, fun ts' he => by cases he; exact hlength⟩
      · cases h
        exact Or.inr (Or.inl ⟨_, ts, rfl, hlength, rfl⟩)
    next => cases h
  | _ =>
    cases h
    exact Or.inr (Or.inr ⟨by simp, rfl⟩)

theorem Piece.unique {k : String} {v : Json} {new new' : List (String × Json)} (h : Piece k v new)
    (h' : Piece k v new') : new = new' := by
  by_cases hk : k = "type"
  · subst hk
    exact Except.ok.inj ((piece_type.mp h).symm.trans (piece_type.mp h'))
  · obtain ⟨r, hr, rfl⟩ := (piece_of_ne hk).mp h
    obtain ⟨r', hr', rfl⟩ := (piece_of_ne hk).mp h'
    rw [Except.ok.inj (hr.symm.trans hr')]

theorem Piece.replaced_of_ne {k : String} {v : Json} {new : List (String × Json)}
    (h : Piece k v new) (hk : k ≠ "type") (hkept : capitalizing k ≠ .drop) :
    ∃ w, Replaced capitalize (capitalizing k) v w ∧ new = [(k, w)] := by
  cases h with
  | type => exact absurd rfl hk
  | dropped _ _ hdrop => exact absurd hdrop hkept
  | replaced _ h => exact ⟨_, h, rfl⟩

/-- All that comes of one field has the key of the field, but for what a union of types adds. -/
theorem Piece.mem {k : String} {v : Json} {new : List (String × Json)} (h : Piece k v new)
    {l : String} {w : Json} (hw : (l, w) ∈ new) :
    (l = k ∧ ∀ w', (k, w') ∈ new → w' = w) ∨
      k = "type" ∧ l = "nullable" ∧ w = .bool true ∧ ∃ ts, v = .arr ts ∧ ts.length ≠ 1 := by
  cases h with
  | type h =>
    rcases capitalType_eq_ok h with ⟨t, rfl, -⟩ | ⟨t, ts, rfl, hlength, rfl⟩ | ⟨-, rfl⟩
    · simp_all
    · simp only [List.mem_cons, Prod.mk.injEq, List.not_mem_nil, or_false] at hw
      rcases hw with ⟨rfl, rfl⟩ | ⟨rfl, rfl⟩
      · exact Or.inl ⟨rfl, by simp⟩
      · exact Or.inr ⟨rfl, rfl, rfl, ts, rfl, hlength⟩
    · simp_all
  | dropped => simp at hw
  | replaced => simp_all

/-- What comes of one field: the argument replaced, the argument itself, or a text or a truth value
that a type gives. -/
theorem Piece.argument {k : String} {v : Json} {new : List (String × Json)} (h : Piece k v new)
    {l : String} {w : Json} (hw : (l, w) ∈ new) :
    (l = k ∧ k ≠ "type" ∧ Replaced capitalize (capitalizing k) v w) ∨
      (l = "type" ∧ k = "type" ∧ w = v ∧ ∀ ts, v ≠ .arr ts) ∨
        (l = "type" ∨ l = "nullable") ∧ ((∃ t, w = .str t) ∨ w = .bool true) := by
  cases h with
  | type h =>
    rcases capitalType_eq_ok h with ⟨t, rfl, -⟩ | ⟨t, ts, rfl, -, rfl⟩ | ⟨hno, rfl⟩
    · simp_all
    · simp only [List.mem_cons, Prod.mk.injEq, List.not_mem_nil, or_false] at hw
      rcases hw with ⟨rfl, rfl⟩ | ⟨rfl, rfl⟩
      · exact Or.inr (Or.inr ⟨Or.inl rfl, Or.inl ⟨t, rfl⟩⟩)
      · exact Or.inr (Or.inr ⟨Or.inr rfl, Or.inr rfl⟩)
    · simp_all
  | dropped => simp at hw
  | replaced hk h =>
    simp only [List.mem_singleton, Prod.mk.injEq] at hw
    obtain ⟨rfl, rfl⟩ := hw
    exact Or.inl ⟨rfl, hk, h⟩

section Object

variable {fields : List (String × Json)} {pieces : List (List (String × Json))}
  (hpieces : List.Forall₂ (fun p => Piece p.1 p.2) fields pieces)
include hpieces

theorem exists_piece {l : String} {w : Json} (h : (l, w) ∈ pieces.flatten) :
    ∃ k v new, (k, v) ∈ fields ∧ Piece k v new ∧ (l, w) ∈ new := by
  obtain ⟨new, hnew, hw⟩ := List.mem_flatten.mp h
  obtain ⟨⟨k, v⟩, hmem, hp⟩ := exists_of_forall₂ (List.Forall₂.flip hpieces) hnew
  exact ⟨k, v, new, hmem, hp, hw⟩

/-- What comes of a field under its own key stands in the object, unless the field says whether null
is allowed and a union of types does so too. -/
theorem mem_of_piece (hkeys : (fields.map (·.1)).Nodup) {k : String} {v w : Json}
    {new : List (String × Json)} (hmem : (k, v) ∈ fields) (hp : Piece k v new) (hw : (k, w) ∈ new)
    (hunion : k = "nullable" → ∀ ts, ("type", .arr ts) ∈ fields → ts.length = 1) :
    (k, w) ∈ Assoc.ofList pieces.flatten := by
  apply Assoc.mem_of_find?
  rw [Assoc.find?_ofList]
  have hin : (k, w) ∈ pieces.flatten := by
    obtain ⟨new', hnew', hp'⟩ := exists_of_forall₂ hpieces hmem
    exact List.mem_flatten.mpr ⟨new', hnew', hp'.unique hp ▸ hw⟩
  refine Assoc.find?_of_unique (List.mem_reverse.mpr hin) fun w' hw' => ?_
  obtain ⟨k', v', new', hmem', hp', hnew'⟩ := exists_piece hpieces (List.mem_reverse.mp hw')
  rcases hp'.mem hnew' with ⟨rfl, hsame⟩ | ⟨rfl, rfl, -, ts, rfl, hlength⟩
  · have hv : v' = v := Option.some.inj
      ((Assoc.find?_of_mem hkeys hmem').symm.trans (Assoc.find?_of_mem hkeys hmem))
    subst hv
    rw [hp.unique hp'] at hw
    exact (hsame w hw).symm
  · exact absurd (hunion rfl ts hmem') hlength

/-- In an object in order a union of types has the last word on null. -/
theorem nullable_of_union (hsorted : Assoc.Sorted fields) {ts : List Json}
    (ht : ("type", .arr ts) ∈ fields) (hlength : ts.length ≠ 1) :
    Assoc.find? "nullable" (Assoc.ofList pieces.flatten) = some (.bool true) := by
  rw [Assoc.find?_ofList]
  induction hpieces with
  | nil => simp at ht
  | @cons p new fields pieces hp hpieces ih =>
    obtain ⟨hfirst, hsorted⟩ := List.pairwise_cons.mp hsorted
    rw [List.flatten_cons, List.reverse_append, Assoc.find?_append]
    rcases List.mem_cons.mp ht with rfl | ht
    · have hnone : Assoc.find? "nullable" pieces.flatten.reverse = none := by
        refine Assoc.find?_eq_none.mpr fun w hw => ?_
        obtain ⟨k, v, new', hmem, hp', hw⟩ := exists_piece hpieces (List.mem_reverse.mp hw)
        have hlt := hfirst _ hmem
        have horder : ¬ "type" < "nullable" := by decide
        rcases hp'.mem hw with ⟨rfl, -⟩ | ⟨rfl, -⟩
        · exact absurd hlt horder
        · exact absurd hlt (String.lt_irrefl _)
      rcases capitalType_eq_ok (piece_type.mp hp) with ⟨t, -, hone⟩ | ⟨t, _, -, -, rfl⟩ | ⟨hno, -⟩
      · exact absurd (hone ts rfl) hlength
      · simp [hnone, Assoc.find?_cons]
      · exact absurd rfl (hno ts)
    · rw [ih hsorted ht, Option.some_or]

end Object

/-! ### Places -/

theorem capitalizing_entered (k : String)
    (hk : capitalizing k = .nested ∨ capitalizing k = .properties) :
    inliningOf k = capitalizing k := by
  unfold capitalizing at hk ⊢
  split_ifs at hk ⊢ with h1 h2 h3
  · simp at hk
  · subst h2
    rfl
  · have hname : k = "items" ∨ k = "anyOf" ∨ k = "allOf" ∨ k = "oneOf" := by simpa using h3
    rcases hname with rfl | rfl | rfl | rfl <;> rfl
  · simp at hk

theorem keep_or_not {k : String} (hk : capitalizing k = .keep) (hdrop : inliningOf k ≠ .drop) :
    inliningOf k = .keep ∨ k = "not" := by
  cases ht : inliningOf k with
  | drop => exact absurd ht hdrop
  | keep => exact Or.inl rfl
  | properties =>
    cases properties_name ht
    cases hk
  | nested =>
    rcases nested_names ht with rfl | rfl | rfl | rfl | rfl | rfl
    case inr.inr.inr.inr.inl => exact Or.inr rfl
    all_goals cases hk

theorem capitalizing_properties {k : String} (hk : capitalizing k = .properties) :
    k = "properties" :=
  properties_name ((capitalizing_entered k (Or.inr hk)).trans hk)

theorem enters_of_capitalizing {s t : Json} (h : EntersBy capitalizing s t) : Enters s t := by
  cases h with
  | item h => exact .item h
  | nested h hk => exact .nested h ((capitalizing_entered _ (Or.inl hk)).trans hk)
  | property h hk hs => exact .property h ((capitalizing_entered _ (Or.inr hk)).trans hk) hs

theorem capitalize_eq_arr {s : Json} {os : List Json} (h : capitalize s = .ok (.arr os)) :
    ∃ items, s = .arr items ∧ List.Forall₂ (fun s o => capitalize s = .ok o) items os := by
  cases s with
  | arr items =>
    obtain ⟨os', hos, he⟩ := capitalize_arr.mp h
    cases he
    exact ⟨items, rfl, hos⟩
  | obj fields =>
    obtain ⟨_, -, he⟩ := capitalize_obj.mp h
    cases he
  | _ => simp [capitalize] at h

theorem capitalize_eq_obj {s : Json} {out : List (String × Json)}
    (h : capitalize s = .ok (.obj out)) : ∃ fields pieces, s = .obj fields ∧
      List.Forall₂ (fun p => Piece p.1 p.2) fields pieces ∧ out = Assoc.ofList pieces.flatten := by
  cases s with
  | obj fields =>
    obtain ⟨pieces, hpieces, he⟩ := capitalize_obj.mp h
    cases he
    exact ⟨fields, pieces, rfl, hpieces, rfl⟩
  | arr items =>
    obtain ⟨_, -, he⟩ := capitalize_arr.mp h
    cases he
  | _ => simp [capitalize] at h

theorem capitalize_of_entered {s o t : Json} (h : capitalize s = .ok o)
    (hkeys : ∀ fields, s = .obj fields → (fields.map (·.1)).Nodup)
    (ht : EntersBy capitalizing s t) : ∃ q, EntersBy capitalizing o q ∧ capitalize t = .ok q := by
  cases ht with
  | item ht =>
    obtain ⟨os, hos, rfl⟩ := capitalize_arr.mp h
    obtain ⟨q, hq, htq⟩ := exists_of_forall₂ hos ht
    exact ⟨q, .item hq, htq⟩
  | @nested _ k _ hmem hk =>
    obtain ⟨pieces, hpieces, rfl⟩ := capitalize_obj.mp h
    obtain ⟨new, -, hp⟩ := exists_of_forall₂ hpieces hmem
    have hnested : inliningOf k = .nested := (capitalizing_entered k (Or.inl hk)).trans hk
    have hne : k ≠ "nullable" ∧ k ≠ "type" := by
      rcases nested_names hnested with rfl | rfl | rfl | rfl | rfl | rfl <;> decide
    obtain ⟨w, hw, rfl⟩ := Piece.replaced_of_ne hp hne.2 (by simp [hk])
    rw [hk, replaced_nested] at hw
    have hout := mem_of_piece hpieces (hkeys _ rfl) hmem hp List.mem_cons_self fun he =>
      absurd he hne.1
    exact ⟨w, .nested hout hk, hw⟩
  | @property _ props k name _ hmem hk hs =>
    obtain ⟨pieces, hpieces, rfl⟩ := capitalize_obj.mp h
    obtain ⟨new, -, hp⟩ := exists_of_forall₂ hpieces hmem
    cases capitalizing_properties hk
    change Piece "properties" (.obj props) new at hp
    obtain ⟨w, hw, rfl⟩ := hp.replaced_of_ne (by decide) (by decide)
    have hout := mem_of_piece hpieces (hkeys _ rfl) hmem hp List.mem_cons_self fun he =>
      absurd he (by decide)
    rw [hk, replaced_properties] at hw
    obtain ⟨ws, hws, rfl⟩ := hw
    obtain ⟨⟨_, q⟩, hq, rfl, hto⟩ := exists_of_forall₂ hws hs
    exact ⟨q, .property hout hk hq, hto⟩

theorem place_of_entered {s o : Json} (h : capitalize s = .ok o)
    (hkeys : ∀ fields, Relation.ReflTransGen (EntersBy capitalizing) s (.obj fields) →
      (fields.map (·.1)).Nodup) {t : Json}
    (ht : Relation.ReflTransGen (EntersBy capitalizing) s t) :
    ∃ p, Relation.ReflTransGen (EntersBy capitalizing) o p ∧ capitalize t = .ok p := by
  induction ht with
  | refl => exact ⟨o, .refl, h⟩
  | @tail t u hst htu ih =>
    obtain ⟨p, hp, htp⟩ := ih
    have hnodup : ∀ fields, t = .obj fields → (fields.map (·.1)).Nodup := by
      rintro fields rfl
      exact hkeys fields hst
    obtain ⟨q, hq, huq⟩ := capitalize_of_entered htp hnodup htu
    exact ⟨q, hp.tail hq, huq⟩

section Places

variable {treat : String → Treatment}
  (htreat : ∀ k, treat k = .nested ∨ treat k = .properties → inliningOf k = treat k)
include htreat

/-- What is entered in a schema with types in capitals was put in capitals itself or stood, as it is,
below `not`. -/
theorem entered_of_capitalize {t p q : Json} (htp : capitalize t = .ok p)
    (hpq : EntersBy treat p q) : (∃ u, EntersBy capitalizing t u ∧ capitalize u = .ok q) ∨
      treat "not" = .nested ∧ ∃ fields, t = .obj fields ∧ ("not", q) ∈ fields := by
  cases hpq with
  | item hq =>
    obtain ⟨items, rfl, hos⟩ := capitalize_eq_arr htp
    obtain ⟨u, hu, huq⟩ := exists_of_forall₂ (List.Forall₂.flip hos) hq
    exact Or.inl ⟨u, .item hu, huq⟩
  | @nested out l _ hmem hnested =>
    have hl : inliningOf l = .nested := (htreat l (Or.inl hnested)).trans hnested
    obtain ⟨fields, pieces, rfl, hpieces, rfl⟩ := capitalize_eq_obj htp
    obtain ⟨k, v, new, hv, hp, hw⟩ := exists_piece hpieces (Json.mem_ofList hmem)
    rcases hp.argument hw with ⟨rfl, -, hvw⟩ | ⟨rfl, -⟩ | ⟨rfl | rfl, -⟩
    · generalize ht : capitalizing l = t at hvw
      cases hvw with
      | nested hvw => exact Or.inl ⟨v, .nested hv ht, hvw⟩
      | properties => cases hl.symm.trans ((capitalizing_entered l (Or.inr ht)).trans ht)
      | noProperties => cases hl.symm.trans ((capitalizing_entered l (Or.inr ht)).trans ht)
      | keep =>
        rcases keep_or_not ht (by simp [hl]) with hkeep | rfl
        · cases hl.symm.trans hkeep
        · exact Or.inr ⟨hnested, fields, rfl, hv⟩
    · cases hl
    · cases hl
    · cases hl
  | @property out ws l name _ hmem hprops hs =>
    have hl : inliningOf l = .properties := (htreat l (Or.inr hprops)).trans hprops
    obtain ⟨fields, pieces, rfl, hpieces, rfl⟩ := capitalize_eq_obj htp
    obtain ⟨k, v, new, hv, hp, hw⟩ := exists_piece hpieces (Json.mem_ofList hmem)
    cases properties_name hl
    rcases hp.argument hw with ⟨rfl, -, hvw⟩ | ⟨hl, -⟩ | ⟨-, ⟨t, ht⟩ | ht⟩
    · obtain ⟨props, rfl, hprops⟩ := replaced_obj hvw
      obtain ⟨⟨_, u⟩, hu, rfl, huq⟩ := exists_of_forall₂ (List.Forall₂.flip hprops) hs
      exact Or.inl ⟨u, .property hv rfl hu, huq⟩
    · exact absurd hl (by decide)
    · cases ht
    · cases ht

/-- A place that is got to in a schema with types in capitals was put in capitals itself or stands,
as it was, below `not`. -/
theorem place_of_capitalize {s o : Json} (h : capitalize s = .ok o) {p : Json}
    (hp : Relation.ReflTransGen (EntersBy treat) o p) :
    (∃ t, Relation.ReflTransGen (EntersBy capitalizing) s t ∧ capitalize t = .ok p) ∨
      treat "not" = .nested ∧ ∃ fields v, Relation.ReflTransGen (EntersBy capitalizing) s
        (.obj fields) ∧ ("not", v) ∈ fields ∧ Relation.ReflTransGen (EntersBy treat) v p := by
  induction hp with
  | refl => exact Or.inl ⟨s, .refl, h⟩
  | @tail p q _ hpq ih =>
    rcases ih with ⟨t, hst, htp⟩ | ⟨hnot, fields, v, hst, hv, hvp⟩
    · rcases entered_of_capitalize htreat htp hpq with ⟨u, htu, huq⟩ | ⟨hnot, fields, rfl, hv⟩
      · exact Or.inl ⟨u, hst.tail htu, huq⟩
      · exact Or.inr ⟨hnot, fields, q, hst, hv, .refl⟩
    · exact Or.inr ⟨hnot, fields, v, hst, hv, hvp.tail hpq⟩

end Places

theorem inside_of_capitalizing {s t : Json}
    (h : Relation.ReflTransGen (EntersBy capitalizing) s t) : Relation.ReflTransGen Enters s t :=
  Relation.ReflTransGen.mono (fun _ _ => enters_of_capitalizing) _ _ h

/-- Where inlining enters a schema with types in capitals, each field comes of a field that stood
where inlining entered the schema before. -/
theorem exists_piece_of_place {s o : Json} (h : capitalize s = .ok o)
    {out : List (String × Json)} (hout : Relation.ReflTransGen Enters o (.obj out)) {l : String}
    {w : Json} (hw : (l, w) ∈ out) : ∃ fields k v,
      Relation.ReflTransGen Enters s (.obj fields) ∧ (k, v) ∈ fields ∧
        (l = k ∧ w = v ∨ ∃ new, Piece k v new ∧ (l, w) ∈ new) := by
  rcases place_of_capitalize (fun _ _ => rfl) h hout with ⟨t, ht, htp⟩ | ⟨-, fields, v, hf, hv, hvp⟩
  · obtain ⟨fields, pieces, rfl, hpieces, rfl⟩ := capitalize_eq_obj htp
    obtain ⟨k, v, new, hv, hp, hnew⟩ := exists_piece hpieces (Json.mem_ofList hw)
    exact ⟨fields, k, v, inside_of_capitalizing ht, hv, Or.inr ⟨new, hp, hnew⟩⟩
  · -- a negated schema is entered by inlining and stands as it was
    have hnot : Enters (.obj fields) v := .nested hv (by decide)
    exact ⟨out, l, w, (inside_of_capitalizing hf).trans (.head hnot hvp), hw, Or.inl ⟨rfl, rfl⟩⟩

end Schema
end PromptWeave
