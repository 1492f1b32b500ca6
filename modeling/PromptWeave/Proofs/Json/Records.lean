import PromptWeave.Json.Decode
import PromptWeave.Proofs.Assoc
import PromptWeave.Proofs.Lists

/-! What an object has to look like to be read.
A shape says which values a raw tree may stand for, without saying how they are read; a decoder
reads a shape when it gives that value for every tree of the shape. An object of a shape has its
fields in any order, and others among them. -/
namespace PromptWeave
namespace Json

def valuesOf (name : String) (fields : List (Option String × Raw)) : List Raw :=
  (fields.filter fun f => f.1 == some name).map Prod.snd

theorem valuesOf_cons (name : String) (f : Option String × Raw) (fields : List (Option String × Raw)) :
    valuesOf name (f :: fields) =
      if f.1 = some name then f.2 :: valuesOf name fields else valuesOf name fields := by
  by_cases h : f.1 = some name <;> simp [valuesOf, h]

/-- All keys are legible, and each that is known is given at most once. -/
structure IsRecord (names : List String) (fields : List (Option String × Raw)) : Prop where
  legible : ∀ f ∈ fields, f.1.isSome
  once : ∀ name ∈ names, (valuesOf name fields).length ≤ 1

instance (names : List String) (fields : List (Option String × Raw)) :
    Decidable (IsRecord names fields) :=
  decidable_of_iff ((∀ f ∈ fields, f.1.isSome) ∧ ∀ name ∈ names, (valuesOf name fields).length ≤ 1)
    ⟨fun h => ⟨h.1, h.2⟩, fun h => ⟨h.legible, h.once⟩⟩

theorem IsRecord.tail {names : List String} {f : Option String × Raw}
    {fields : List (Option String × Raw)} (h : IsRecord names (f :: fields)) :
    IsRecord names fields := by
  refine ⟨fun g hg => h.legible g (List.mem_cons_of_mem f hg), fun name hname => ?_⟩
  have honce := h.once name hname
  have hless : (valuesOf name fields).length ≤ (valuesOf name (f :: fields)).length := by
    rw [valuesOf_cons]
    split_ifs <;> simp
  omega

theorem IsRecord.valuesOf_tail {names : List String} {k : String} {r : Raw}
    {fields : List (Option String × Raw)} (h : IsRecord names ((some k, r) :: fields))
    (hk : k ∈ names) : valuesOf k fields = [] := by
  have honce := h.once k hk
  rw [valuesOf_cons, if_pos rfl, List.length_cons] at honce
  exact List.length_eq_zero_iff.mp (by omega)

/-- A record of an object gives for each known field the value that the object gives. -/
structure Record.Reflects (record : Record) (names : List String)
    (fields : List (Option String × Raw)) : Prop where
  positional : record.positional = false
  find? : ∀ name ∈ names, record.find? name = (valuesOf name fields).head?

theorem collect_of_isRecord {names : List String} {fields : List (Option String × Raw)}
    (h : IsRecord names fields) : ∃ present, Record.collect id names fields = .ok present ∧
      ∀ name ∈ names, Assoc.find? name present = (valuesOf name fields).head? := by
  induction fields with
  | nil => exact ⟨[], rfl, by simp [valuesOf]⟩
  | cons f fields ih =>
    obtain ⟨more, hmore, hfind⟩ := ih h.tail
    obtain ⟨key, r⟩ := f
    cases key with
    | none => simpa using h.legible (none, r) List.mem_cons_self
    | some k =>
      by_cases hk : k ∈ names
      · have hnone : Assoc.find? k more = none := by
          rw [hfind k hk, h.valuesOf_tail hk, List.head?_nil]
        have hfresh : (more.any fun p => p.1 == k) = false := by
          simp only [List.any_eq_false, beq_iff_eq]
          rintro ⟨key, v⟩ hp rfl
          exact Assoc.find?_eq_none.mp hnone v hp
        refine ⟨(k, r) :: more, ?_, fun name hname => ?_⟩
        · simp [Record.collect, hmore, hk, hfresh, Bind.bind, Except.bind, pure, Except.pure]
        · rw [Assoc.find?_cons, valuesOf_cons, hfind name hname]
          by_cases hkey : k = name <;> simp [hkey]
      · refine ⟨more, ?_, fun name hname => ?_⟩
        · simp [Record.collect, hmore, hk, Bind.bind, Except.bind, pure, Except.pure]
        · have hkey : ¬(some k = some name) := by
            rintro ⟨⟩
            exact hk hname
          rw [valuesOf_cons, if_neg hkey, hfind name hname]

theorem record_of_isRecord {names : List String} {fields : List (Option String × Raw)}
    (h : IsRecord names fields) :
    ∃ record, Decode.record names (.obj fields) = .ok record ∧ record.Reflects names fields := by
  obtain ⟨present, hpresent, hfind⟩ := collect_of_isRecord h
  refine ⟨⟨false, present⟩, ?_, rfl, hfind⟩
  rw [Decode.record, Record.ofRaw, Record.ofObject, hpresent]
  · rfl
  · intro items
    simp

/-! ### Shapes -/

variable {α : Type}

/-- A decoder gives the value of every tree of a shape. -/
def Reads (d : Decoder α) (shape : α → Raw → Prop) : Prop := ∀ a r, shape a r → d r = .ok a

def Given (shape : α → Raw → Prop) (name : String) (fields : List (Option String × Raw)) (a : α) :
    Prop :=
  ∃ r, valuesOf name fields = [r] ∧ shape a r

/-- A field of a shape is given, or it is absent or `null`. -/
def MayBe (shape : α → Raw → Prop) (name : String) (fields : List (Option String × Raw)) :
    Option α → Prop
  | some a => Given (fun a r => r ≠ .null ∧ shape a r) name fields a
  | none => ∀ r ∈ valuesOf name fields, r = .null

/-- A field of a shape is given, or its default is left out. -/
def OrDefault (default : α) (shape : α → Raw → Prop) (name : String)
    (fields : List (Option String × Raw)) (a : α) : Prop :=
  Given shape name fields a ∨ valuesOf name fields = [] ∧ a = default

def Each (shape : α → Raw → Prop) (as : List α) (r : Raw) : Prop :=
  ∃ items, r = .arr items ∧ List.Forall₂ shape as items

/-- An object that can be read as a record, with something about its fields. -/
def IsObject (names : List String) (holds : List (Option String × Raw) → Prop) (r : Raw) : Prop :=
  ∃ fields, r = .obj fields ∧ IsRecord names fields ∧ holds fields

def IsText (s : String) (r : Raw) : Prop := r = .str s

def IsCount (n : Nat) (r : Raw) : Prop := r = .num (.int n) ∧ n < Nat.pow 2 32

def IsValue (v : Json) (r : Raw) : Prop := r.value = .ok v

theorem reads_string : Reads Decode.string IsText := by
  rintro s r rfl
  rfl

theorem reads_count : Reads Decode.count IsCount := by
  rintro n r ⟨rfl, hn⟩
  simp [Decode.count, hn]

theorem reads_value : Reads Decode.value IsValue := fun _ _ h => h

theorem reads_list {d : Decoder α} {shape : α → Raw → Prop} (h : Reads d shape) :
    Reads (Decode.list d) (Each shape) := by
  rintro as r ⟨items, rfl, hitems⟩
  rw [Decode.list]
  induction hitems with
  | nil => rfl
  | cons hitem _ ih => exact bind_eq_ok.mpr ⟨_, h _ _ hitem, bind_eq_ok.mpr ⟨_, ih, rfl⟩⟩

theorem IsObject.record {names : List String} {holds : List (Option String × Raw) → Prop} {r : Raw}
    (h : IsObject names holds r) : ∃ record fields,
      Decode.record names r = .ok record ∧ record.Reflects names fields ∧ holds fields := by
  obtain ⟨fields, rfl, hrecord, hfields⟩ := h
  obtain ⟨record, hread, hreflects⟩ := record_of_isRecord hrecord
  exact ⟨record, fields, hread, hreflects, hfields⟩

namespace Record.Reflects

variable {record : Record} {names : List String} {fields : List (Option String × Raw)}
  {d : Decoder α} {shape : α → Raw → Prop} {name : String}

theorem required (h : record.Reflects names fields) (hname : name ∈ names) (hd : Reads d shape)
    {a : α} (hgiven : Given shape name fields a) : record.required name d = .ok a := by
  obtain ⟨r, hr, hshape⟩ := hgiven
  rw [Record.required, h.find? name hname, hr]
  exact hd a r hshape

theorem option_eq {a? : Option α} (hd : Reads d shape) (h : MayBe shape name fields a?) :
    (match (valuesOf name fields).head? with
      | some r => Decode.option d r
      | none => .ok none) = .ok a? := by
  cases a? with
  | some a =>
    obtain ⟨r, hr, hnull, hshape⟩ := h
    have hread := hd a r hshape
    rw [hr]
    cases r <;> simp_all [Decode.option, Bind.bind, Except.bind, pure, Except.pure]
  | none =>
    cases hvalues : valuesOf name fields with
    | nil => rfl
    | cons r rs =>
      have hnull : r = .null := h r (by simp [hvalues])
      rw [hnull]
      rfl

theorem optional (h : record.Reflects names fields) (hname : name ∈ names) (hd : Reads d shape)
    {a? : Option α} (hmay : MayBe shape name fields a?) : record.optional name d = .ok a? := by
  rw [Record.optional, h.find? name hname, h.positional]
  exact option_eq hd hmay

theorem optionalOrNone (h : record.Reflects names fields) (hname : name ∈ names)
    (hd : Reads d shape) {a? : Option α} (hmay : MayBe shape name fields a?) :
    record.optionalOrNone name d = .ok a? := by
  rw [Record.optionalOrNone, Record.withDefault, h.find? name hname]
  exact option_eq hd hmay

theorem withDefault (h : record.Reflects names fields) (hname : name ∈ names) (hd : Reads d shape)
    {a default : α} (hgiven : OrDefault default shape name fields a) :
    record.withDefault name default d = .ok a := by
  rw [Record.withDefault, h.find? name hname]
  rcases hgiven with ⟨r, hr, hshape⟩ | ⟨hnone, rfl⟩
  · rw [hr]
    exact hd a r hshape
  · rw [hnone]
    rfl

end Record.Reflects

end Json
end PromptWeave
