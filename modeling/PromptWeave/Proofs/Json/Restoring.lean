import PromptWeave.Proofs.Json.Alike

/-! Reading back what was written.
A decoder restores a value when it reads each tree of the value's JSON form as that value. Records
are restored field by field. What a decoder yields at all is a matter of its own: all JSON in it has
its keys in order. -/
namespace PromptWeave
namespace Json

variable {α : Type}

def Restores (d : Decoder α) (encode : α → Json) (a : α) : Prop :=
  ∀ r, Spells (encode a) r → d r = .ok a

theorem Restores.decode_ofJson {d : Decoder α} {encode : α → Json} {a : α} (h : Restores d encode a)
    (hdistinct : (encode a).distinctKeys = true) : d (.ofJson (encode a)) = .ok a :=
  h _ ⟨_, ⟨hdistinct, rfl⟩, rfl⟩

/-! ### Plain values and lists -/

theorem restores_string (s : String) : Restores Decode.string .str s := by
  intro r h
  rw [h.eq_of_plain (by simp) (by simp), Raw.ofJson, Decode.string]

theorem restores_bool (b : Bool) : Restores Decode.bool .bool b := by
  intro r h
  rw [h.eq_of_plain (by simp) (by simp), Raw.ofJson, Decode.bool]

theorem restores_real (x : BinaryFloat) : Restores Decode.real (fun x => .num (.float x)) x := by
  intro r h
  rw [h.eq_of_plain (by simp) (by simp), Raw.ofJson, Decode.real]

theorem restores_constant {names : List (String × α)} {name : α → String} {a : α}
    (h : Assoc.find? (name a) names = some a) :
    Restores (Decode.constant names) (fun a => .str (name a)) a := by
  intro r hr
  rw [hr.eq_of_plain (by simp) (by simp), Raw.ofJson, Decode.constant, Decode.named, h]

theorem restores_value {v : Json} (h : v.sortKeys = v) : Restores Decode.value id v := by
  intro r hr
  rw [Decode.value, hr.value, id, h]

theorem restores_dict {d : Dict Json} (h : ∀ p ∈ d.entries, p.2.sortKeys = p.2) :
    Restores Decode.dict (fun d => .obj d.entries) d := by
  intro r hr
  have hvalue := hr.value
  rw [sortKeys_obj_eq_self.mpr ⟨d.sorted, h⟩] at hvalue
  obtain ⟨fields, rfl, -⟩ := hr.obj d.sorted.nodup
  rw [Raw.value, bind_eq_ok] at hvalue
  obtain ⟨ps, hps, hobj⟩ := hvalue
  rw [pure_eq_ok, Json.obj.injEq] at hobj
  refine bind_eq_ok.mpr ⟨ps, hps, congrArg Except.ok (Dict.ext ?_)⟩
  rw [Dict.entries_ofList, hobj]

/-- A list is read when its elements are, which are less deep. -/
theorem list_of_spells {d : Decoder α} {encode : α → Json} {as : List α} {r : Raw}
    (hr : Spells (.arr (as.map encode)) r)
    (h : ∀ a ∈ as, ∀ s, Spells (encode a) s → s.depth < r.depth → d s = .ok a) :
    Decode.list d r = .ok as := by
  obtain ⟨items, he, hitems⟩ := hr.arr
  have hreads : Reads d fun a s => d s = .ok a := fun _ _ hs => hs
  refine reads_list hreads as r ⟨items, he, ?_⟩
  exact forall₂_imp_mem (List.forall₂_map_left_iff.mp hitems) fun a ha s hs => h a ha s hs.1 hs.2

theorem restores_list {d : Decoder α} {encode : α → Json} {as : List α}
    (h : ∀ a ∈ as, Restores d encode a) :
    Restores (Decode.list d) (fun as => .arr (as.map encode)) as :=
  fun _ hr => list_of_spells hr fun a ha s hs _ => h a ha s hs

/-! ### Objects -/

theorem nodup_object {fs : List (String × Option Json)} (h : (fs.map (·.1)).Nodup) :
    ((fs.filterMap fun (k, v) => v.map (k, ·)).map (·.1)).Nodup := by
  refine List.Nodup.sublist ?_ h
  induction fs with
  | nil => exact List.Sublist.refl _
  | cons f fs ih =>
    obtain ⟨k, v⟩ := f
    have hsub := ih (List.nodup_cons.mp h).2
    cases v with
    | none => exact hsub.cons k
    | some v => exact hsub.cons_cons k

theorem find?_object {fs : List (String × Option Json)} (h : (fs.map (·.1)).Nodup) {name : String}
    {v : Option Json} (hmem : (name, v) ∈ fs) :
    Assoc.find? name (fs.filterMap fun (k, v) => v.map (k, ·)) = v := by
  cases v with
  | some v =>
    exact Assoc.find?_of_mem (nodup_object h) (List.mem_filterMap.mpr ⟨_, hmem, rfl⟩)
  | none =>
    refine Assoc.find?_eq_none.mpr fun v hv => ?_
    obtain ⟨⟨k, u⟩, hu, he⟩ := List.mem_filterMap.mp hv
    obtain ⟨w, rfl, he⟩ := Option.map_eq_some_iff.mp he
    cases he
    cases List.inj_on_of_nodup_map h hu hmem rfl

theorem distinctKeys_object {fs : List (String × Option Json)} (hfs : (fs.map (·.1)).Nodup)
    (h : ∀ p ∈ fs, ∀ v ∈ p.2, v.distinctKeys = true) : (object fs).distinctKeys = true := by
  refine distinctKeys_obj.mpr ⟨nodup_object hfs, fun p hp => ?_⟩
  obtain ⟨⟨k, u⟩, hu, he⟩ := List.mem_filterMap.mp hp
  obtain ⟨w, rfl, rfl⟩ := Option.map_eq_some_iff.mp he
  exact h _ hu w rfl

theorem distinctKeys_of_sorted {v : Json} (h : v.sortKeys = v) : v.distinctKeys = true :=
  h ▸ distinctKeys_sortKeys v

/-- A record has those of the fields that it knows, as trees that are less deep than `depth`. -/
def Record.Shows (record : Record) (names : List String) (fs : List (String × Option Json))
    (depth : Nat) : Prop :=
  ∀ name ∈ names, ∀ v, (name, v) ∈ fs →
    Option.Rel (fun w r => Spells w r ∧ r.depth < depth) v (record.find? name)

/-- Where no key is spelled in another way, the spelling does not count. -/
theorem collect_of_spelled {spelling : String → String} (names : List String)
    {fields : List (Option String × Raw)}
    (h : ∀ f ∈ fields, ∃ key, f.1 = some key ∧ spelling key = key) :
    Record.collect spelling names fields = Record.collect id names fields := by
  induction fields with
  | nil => rfl
  | cons f fields ih =>
    obtain ⟨⟨key, hf, hkey⟩, hfields⟩ := List.forall_mem_cons.mp h
    obtain ⟨_, r⟩ := f
    cases hf
    rw [Record.collect, Record.collect, ih hfields, hkey, id]

theorem Spells.ofObject {fs : List (String × Option Json)} {r : Raw} (h : Spells (object fs) r)
    (hfs : (fs.map (·.1)).Nodup) {spelling : String → String}
    (hspelling : ∀ key ∈ fs.map (·.1), spelling key = key) (names : List String) :
    ∃ record, Record.ofObject spelling names r = .ok record ∧
      record.Shows names fs r.depth := by
  obtain ⟨fields, rfl, hpresents⟩ := h.obj (nodup_object hfs)
  have hspelled : ∀ f ∈ fields, ∃ key, f.1 = some key ∧ spelling key = key := by
    intro f hf
    obtain ⟨⟨key, w⟩, hp, hkey⟩ := hpresents.legible f hf
    obtain ⟨⟨k, u⟩, hu, he⟩ := List.mem_filterMap.mp hp
    obtain ⟨w, rfl, he⟩ := Option.map_eq_some_iff.mp he
    cases he
    exact ⟨key, hkey, hspelling key (List.mem_map.mpr ⟨_, hu, rfl⟩)⟩
  have hrecord : IsRecord names fields := by
    refine ⟨fun f hf => ?_, fun name _ => hpresents.once name⟩
    obtain ⟨key, hkey, -⟩ := hspelled f hf
    rw [hkey, Option.isSome_some]
  obtain ⟨present, hpresent, hfind⟩ := collect_of_isRecord hrecord
  refine ⟨⟨false, present⟩, ?_, fun name hname v hv => ?_⟩
  · rw [Record.ofObject, collect_of_spelled names hspelled, hpresent]
    rfl
  · have hrel := hpresents.found name
    rw [find?_object hfs hv, ← hfind name hname] at hrel
    have hdepth (s : Raw) (hs : Assoc.find? name present = some s) :
        s.depth < (Raw.obj fields).depth := by
      rw [hfind name hname] at hs
      exact depth_field (List.mem_of_head? hs)
    exact rel_of_mem hrel fun w s hs hspells => ⟨hspells, hdepth s hs⟩

theorem Spells.ofRaw {fs : List (String × Option Json)} {r : Raw} (h : Spells (object fs) r)
    (hfs : (fs.map (·.1)).Nodup) {spelling : String → String}
    (hspelling : ∀ key ∈ fs.map (·.1), spelling key = key) (names : List String) :
    ∃ record, Record.ofRaw spelling names r = .ok record ∧
      record.Shows names fs r.depth := by
  obtain ⟨record, hread, hshows⟩ := h.ofObject hfs hspelling names
  obtain ⟨fields, rfl, -⟩ := h.obj (nodup_object hfs)
  exact ⟨record, hread, hshows⟩

theorem Spells.record {fs : List (String × Option Json)} {r : Raw} (h : Spells (object fs) r)
    (hfs : (fs.map (·.1)).Nodup) (names : List String) :
    ∃ record, Decode.record names r = .ok record ∧ record.Shows names fs r.depth :=
  h.ofRaw hfs (fun _ _ => rfl) names

namespace Record.Shows

variable {record : Record} {names : List String} {fs : List (String × Option Json)} {depth : Nat}
  {d : Decoder α} {encode : α → Json}

theorem find?_some (h : record.Shows names fs depth) (name : String) (hname : name ∈ names)
    {w : Json} (hmem : (name, some w) ∈ fs) :
    ∃ r, record.find? name = some r ∧ Spells w r ∧ r.depth < depth := by
  have hrel := h name hname _ hmem
  cases hfind : record.find? name with
  | none =>
    rw [hfind] at hrel
    cases hrel
  | some r =>
    rw [hfind] at hrel
    cases hrel with
    | some hr => exact ⟨r, rfl, hr⟩

theorem find?_none (h : record.Shows names fs depth) (name : String) (hname : name ∈ names)
    (hmem : (name, none) ∈ fs) : record.find? name = none := by
  have hrel := h name hname _ hmem
  cases hfind : record.find? name with
  | none => rfl
  | some r =>
    rw [hfind] at hrel
    cases hrel

theorem required (h : record.Shows names fs depth) (name : String) (hname : name ∈ names) {a : α}
    (hmem : (name, some (encode a)) ∈ fs) (hd : Restores d encode a) :
    record.required name d = .ok a := by
  obtain ⟨r, hr, hspells, -⟩ := h.find?_some name hname hmem
  rw [Record.required, hr]
  exact hd r hspells

theorem required_missing (h : record.Shows names fs depth) (name : String) (hname : name ∈ names)
    (hmem : (name, none) ∈ fs) (d : Decoder α) :
    record.required name d = .error (.missing name) := by
  rw [Record.required, h.find?_none name hname hmem]

theorem withDefault (h : record.Shows names fs depth) (name : String) (hname : name ∈ names) {a : α}
    (hmem : (name, some (encode a)) ∈ fs) (hd : Restores d encode a) (default : α) :
    record.withDefault name default d = .ok a := by
  obtain ⟨r, hr, hspells, -⟩ := h.find?_some name hname hmem
  rw [Record.withDefault, hr]
  exact hd r hspells

theorem optionalOrNone (h : record.Shows names fs depth) (name : String) (hname : name ∈ names)
    {a? : Option α} (hmem : (name, a?.map encode) ∈ fs) (hnull : ∀ a, encode a ≠ .null)
    (hd : ∀ a ∈ a?, Restores d encode a) : record.optionalOrNone name d = .ok a? := by
  rw [Record.optionalOrNone, Record.withDefault]
  cases a? with
  | none => rw [h.find?_none name hname hmem]
  | some a =>
    obtain ⟨r, hr, hspells, -⟩ := h.find?_some name hname hmem
    have hne := hspells.ne_null (hnull a)
    have hread := hd a rfl r hspells
    rw [hr]
    cases r <;> simp_all [Decode.option, Bind.bind, Except.bind, pure, Except.pure]

end Record.Shows

/-! ### What is read -/

def Yields (d : Decoder α) (P : α → Prop) : Prop := ∀ r a, d r = .ok a → P a

variable {d : Decoder α} {P : α → Prop}

theorem yields_value : Yields Decode.value fun v => v.sortKeys = v := fun _ _ h => sortKeys_value h

theorem yields_dict : Yields Decode.dict fun d => ∀ p ∈ d.entries, p.2.sortKeys = p.2 := by
  intro r d h p hp
  cases r with
  | obj fields =>
    obtain ⟨ps, hps, hd⟩ := bind_eq_ok.mp h
    rw [pure_eq_ok] at hd
    rw [← hd, Dict.entries_ofList] at hp
    exact builtUp_sortKeys.valueFields fields ps hps p (mem_ofList hp)
  | null | bool | num | str | arr | faulty => cases h

theorem yields_option (h : Yields d P) : Yields (Decode.option d) fun a? => ∀ a ∈ a?, P a := by
  intro r a? hr a ha
  cases r with
  | null =>
    cases hr
    cases ha
  | bool | num | str | arr | obj | faulty =>
    obtain ⟨b, hb, he⟩ := bind_eq_ok.mp hr
    rw [pure_eq_ok] at he
    rw [← he, Option.mem_some_iff] at ha
    exact ha ▸ h _ b hb

theorem yields_list (h : Yields d P) : Yields (Decode.list d) fun as => ∀ a ∈ as, P a := by
  intro r as hr
  cases r with
  | arr items =>
    rw [Decode.list] at hr
    induction items generalizing as with
    | nil =>
      cases hr
      simp
    | cons s items ih =>
      obtain ⟨a, ha, hrest⟩ := bind_eq_ok.mp hr
      obtain ⟨more, hmore, he⟩ := bind_eq_ok.mp hrest
      rw [pure_eq_ok] at he
      rw [← he]
      exact List.forall_mem_cons.mpr ⟨h s a ha, ih more hmore⟩
  | null | bool | num | str | obj | faulty => cases hr

section
variable {record : Record} {name : String}

theorem Yields.required (h : Yields d P) {a : α} (ha : record.required name d = .ok a) : P a := by
  rw [Record.required] at ha
  cases hr : record.find? name with
  | none =>
    rw [hr] at ha
    cases ha
  | some r =>
    rw [hr] at ha
    exact h r a ha

theorem Yields.withDefault (h : Yields d P) {default a : α} (hdefault : P default)
    (ha : record.withDefault name default d = .ok a) : P a := by
  rw [Record.withDefault] at ha
  cases hr : record.find? name with
  | none =>
    rw [hr] at ha
    cases ha
    exact hdefault
  | some r =>
    rw [hr] at ha
    exact h r a ha

theorem Yields.optionalOrNone (h : Yields d P) {a? : Option α}
    (ha : record.optionalOrNone name d = .ok a?) : ∀ a ∈ a?, P a :=
  (yields_option h).withDefault (by simp) ha

end

/-! ### Both ways -/

/-- What is written is read back, in whichever order the keys stand, and so is what was read once it
is written again. The values in order are all that can be read back, since none else can be read. -/
structure RoundTrips (encode : α → Json) (decode : Decoder α) (InOrder : α → Prop) : Prop where
  written (a : α) : decode (.ofJson (encode a)) = .ok a ↔ InOrder a
  anyOrder (a : α) : InOrder a → ∀ v, Alike v (encode a) → decode (.ofJson v) = .ok a
  again (r : Raw) (a : α) : decode r = .ok a →
    InOrder a ∧ decode (.ofJson (encode a)) = .ok a ∧ decode (.ofJson (encode a).sortKeys) = .ok a

theorem roundTrips_of_restores {encode : α → Json} {decode : Decoder α} {InOrder : α → Prop}
    (hrestores : ∀ a, InOrder a → Restores decode encode a)
    (hdistinct : ∀ a, InOrder a → (encode a).distinctKeys = true)
    (hyields : Yields decode InOrder) : RoundTrips encode decode InOrder where
  written a := ⟨hyields _ a, fun h => (hrestores a h).decode_ofJson (hdistinct a h)⟩
  anyOrder a h v hv := hrestores a h _ ⟨v, hv, rfl⟩
  again r a hr := by
    have h := hyields r a hr
    exact ⟨h, (hrestores a h).decode_ofJson (hdistinct a h), hrestores a h _ (spells_sortKeys _)⟩

end Json
end PromptWeave
