/-! Dictionaries with text keys, kept in increasing key order.
`Assoc` holds the operations on plain key-value lists, `Dict` the lists that are in order.
The order of texts is by code point, which is also the order of their UTF-8 bytes. -/
namespace PromptWeave

namespace Assoc

variable {α β : Type}

def find? (key : String) : List (String × α) → Option α
  | [] => none
  | (k, v) :: rest => if k = key then some v else find? key rest

/-- Puts `v` at `key`, in place of the value that was there. -/
def insert (key : String) (v : α) : List (String × α) → List (String × α)
  | [] => [(key, v)]
  | (k, w) :: rest =>
    if key < k then (key, v) :: (k, w) :: rest
    else if key = k then (key, v) :: rest
    else (k, w) :: insert key v rest

def erase (key : String) (d : List (String × α)) : List (String × α) :=
  d.filter fun p => p.1 ≠ key

/-- Of several values given for one key the last is kept. -/
def ofList (ps : List (String × α)) : List (String × α) :=
  ps.foldl (fun d p => insert p.1 p.2 d) []

abbrev Sorted (d : List (String × α)) : Prop := d.Pairwise fun p q => p.1 < q.1

theorem mem_insert_key {key : String} {v : α} {d : List (String × α)} {p : String × α}
    (h : p ∈ insert key v d) : p.1 = key ∨ p ∈ d := by
  induction d with
  | nil => simp [insert] at h; simp [h]
  | cons q rest ih =>
    simp only [insert] at h
    split at h
    · rcases List.mem_cons.mp h with h | h
      · simp [h]
      · exact Or.inr h
    · split at h
      · rcases List.mem_cons.mp h with h | h
        · simp [h]
        · exact Or.inr (List.mem_cons_of_mem _ h)
      · rcases List.mem_cons.mp h with h | h
        · simp [h]
        · rcases ih h with h | h
          · exact Or.inl h
          · exact Or.inr (List.mem_cons_of_mem _ h)

theorem sorted_insert (key : String) (v : α) {d : List (String × α)} (h : Sorted d) :
    Sorted (insert key v d) := by
  induction d with
  | nil => simp [insert]
  | cons q rest ih =>
    obtain ⟨hq, hrest⟩ := List.pairwise_cons.mp h
    simp only [insert]
    split
    next hlt =>
      refine List.pairwise_cons.mpr ⟨fun p hp => ?_, h⟩
      rcases List.mem_cons.mp hp with rfl | hp
      · exact hlt
      · exact String.lt_trans hlt (hq p hp)
    next hnot =>
      split
      next heq => subst heq; exact List.pairwise_cons.mpr ⟨fun p hp => hq p hp, hrest⟩
      next hne =>
        refine List.pairwise_cons.mpr ⟨fun p hp => ?_, ih hrest⟩
        rcases mem_insert_key hp with hp | hp
        · rw [hp]
          exact Decidable.byContradiction fun hle =>
            hne (String.le_antisymm (String.not_lt.mp hle) (String.not_lt.mp hnot))
        · exact hq p hp

end Assoc

structure Dict (α : Type) where
  entries : List (String × α)
  sorted : Assoc.Sorted entries

namespace Dict

variable {α β : Type}

def empty : Dict α := ⟨[], List.Pairwise.nil⟩

instance : Inhabited (Dict α) := ⟨empty⟩
instance : EmptyCollection (Dict α) := ⟨empty⟩

theorem ext {d e : Dict α} (h : d.entries = e.entries) : d = e := by
  cases d; cases e; cases h; rfl

instance [DecidableEq α] : DecidableEq (Dict α) := fun d e =>
  if h : d.entries = e.entries then isTrue (ext h) else isFalse fun he => h (he ▸ rfl)

def find? (d : Dict α) (key : String) : Option α := Assoc.find? key d.entries

def insert (d : Dict α) (key : String) (v : α) : Dict α :=
  ⟨Assoc.insert key v d.entries, Assoc.sorted_insert key v d.sorted⟩

def ofList (ps : List (String × α)) : Dict α := ps.foldl (fun d p => d.insert p.1 p.2) empty

def isEmpty (d : Dict α) : Bool := d.entries.isEmpty

def size (d : Dict α) : Nat := d.entries.length

def keys (d : Dict α) : List String := d.entries.map (·.1)

/-- The entries of both; where both have a key, that of `top`. -/
def onto (top below : Dict α) : Dict α :=
  top.entries.foldl (fun d p => d.insert p.1 p.2) below

@[simp] theorem onto_empty_left (d : Dict α) : (empty : Dict α).onto d = d := rfl

end Dict
end PromptWeave
