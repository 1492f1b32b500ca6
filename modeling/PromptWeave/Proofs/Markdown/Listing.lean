import PromptWeave.Proofs.Markdown.Kept

/-! Lists of the sections of a document.
Sections are listed in front of the sections inside them, each with the place of the one around it.
A heading in front of a document stands in front of its list: it takes in the sections that stood in
none and are deeper than it, and all others stay where they were. -/
namespace PromptWeave

/-- A section and the place in the list of the section around it. -/
structure Listed where
  parent : Option Nat
  inside : Section

namespace SectionItem

mutual
/-- The sections of an item in a list that goes on at `next`. -/
def listing (parent : Option Nat) (next : Nat) : SectionItem → List Listed
  | .leaf _ => []
  | .branch head items => ⟨parent, ⟨head, items⟩⟩ :: listingAll (some next) (next + 1) items
def listingAll (parent : Option Nat) (next : Nat) : List SectionItem → List Listed
  | [] => []
  | i :: is =>
    listing parent next i ++ listingAll parent (next + (listing parent next i).length) is
end

end SectionItem

namespace Markdown

/-- A heading of an outline, what is under it and the place in the list of the one around it. -/
structure Headed where
  parent : Option Nat
  depth : Nat
  title : List Char
  inner : List Outline

namespace Headed

def moved (outer : Option Nat) (n : Nat) (h : Headed) : Headed :=
  { h with parent := match h.parent with
      | some j => some (j + n)
      | none => outer }

theorem moved_moved (outer : Option Nat) (m n : Nat) (h : Headed) :
    (h.moved none m).moved outer n = h.moved outer (m + n) := by
  obtain ⟨_ | j, d, t, inner⟩ := h
  · rfl
  · simp [moved, Nat.add_assoc]

theorem moved_moved_some (outer : Option Nat) (j m n : Nat) (h : Headed) :
    (h.moved (some j) m).moved outer n = h.moved (some (j + n)) (m + n) := by
  obtain ⟨_ | j, d, t, inner⟩ := h
  · rfl
  · simp [moved, Nat.add_assoc]

def behind (depth : Nat) (h : Headed) : Headed :=
  { h with parent := match h.parent with
      | some j => some (j + 1)
      | none => if depth < h.depth then some 0 else none }

end Headed

namespace Outline

mutual
def listing (parent : Option Nat) (next : Nat) : Outline → List Headed
  | .text _ => []
  | .headed depth title inner =>
    ⟨parent, depth, title, inner⟩ :: listingAll (some next) (next + 1) inner
def listingAll (parent : Option Nat) (next : Nat) : List Outline → List Headed
  | [] => []
  | e :: es =>
    listing parent next e ++ listingAll parent (next + (listing parent next e).length) es
end

abbrev headings (es : List Outline) : List Headed := listingAll none 0 es

theorem listingAll_text (parent : Option Nat) (next : Nat) (t : List Char) (es : List Outline) :
    listingAll parent next (.text t :: es) = listingAll parent next es := by
  rw [listingAll, listing, List.nil_append, List.length_nil, Nat.add_zero]

theorem listingAll_headed (parent : Option Nat) (next depth : Nat) (title : List Char)
    (inner es : List Outline) : listingAll parent next (.headed depth title inner :: es) =
      ⟨parent, depth, title, inner⟩ :: (listingAll (some next) (next + 1) inner ++
        listingAll parent (next + 1 + (listingAll (some next) (next + 1) inner).length) es) := by
  rw [listingAll, listing, List.cons_append, List.length_cons, Nat.add_assoc next 1, Nat.add_comm 1]

/-- In a longer list the same headings stand at later places. -/
theorem listingAll_eq (es : List Outline) : ∀ (parent : Option Nat) (next : Nat),
    listingAll parent next es = (headings es).map (Headed.moved parent next) := by
  induction es using outline_induction with
  | nil => exact fun _ _ => rfl
  | text t es ih =>
    intro parent next
    rw [headings, listingAll_text, listingAll_text, ih]
  | headed depth title inner es ihinner ih =>
    intro parent next
    have hinner : ((headings inner).map (Headed.moved (some 0) 1)).map (Headed.moved parent next) =
        (headings inner).map (Headed.moved (some next) (next + 1)) := by
      rw [List.map_map]
      refine List.map_congr_left fun h _ => ?_
      rw [Function.comp_apply, Headed.moved_moved_some, Nat.zero_add, Nat.add_comm]
    have hes : ((headings es).map (Headed.moved none (1 + (headings inner).length))).map
          (Headed.moved parent next) =
        (headings es).map (Headed.moved parent (next + 1 + (headings inner).length)) := by
      rw [List.map_map]
      refine List.map_congr_left fun h _ => ?_
      rw [Function.comp_apply, Headed.moved_moved, Nat.add_comm, Nat.add_assoc]
    rw [headings, listingAll_headed, listingAll_headed, ihinner (some next), ihinner (some 0),
      ih parent, ih none, List.map_cons, List.map_append, List.length_map, List.length_map,
      Nat.zero_add, hinner, hes]
    rfl

theorem headings_text (t : List Char) (es : List Outline) :
    headings (.text t :: es) = headings es := listingAll_text none 0 t es

/-- The headings under a heading follow it, and then come those that stand beside it. -/
theorem headings_headed (depth : Nat) (title : List Char) (inner es : List Outline) :
    headings (.headed depth title inner :: es) = ⟨none, depth, title, inner⟩ ::
      ((headings inner).map (Headed.moved (some 0) 1) ++
        (headings es).map (Headed.moved none (1 + (headings inner).length))) := by
  rw [headings, listingAll_headed, listingAll_eq inner, listingAll_eq es, List.length_map,
    Nat.zero_add]

theorem headings_append (es fs : List Outline) : headings (es ++ fs) =
    headings es ++ (headings fs).map (Headed.moved none (headings es).length) := by
  have happend : ∀ next, listingAll none next (es ++ fs) =
      listingAll none next es ++ listingAll none (next + (listingAll none next es).length) fs := by
    induction es with
    | nil => exact fun next => rfl
    | cons e es ih =>
      intro next
      rw [List.cons_append, listingAll, listingAll, ih, List.append_assoc, List.length_append,
        Nat.add_assoc]
  rw [headings, happend, listingAll_eq fs, Nat.zero_add]

/-- What is said of a heading and what is under it, whichever heading it is under. -/
def Throughout (P : Nat → List Outline → Prop) (es : List Outline) : Prop :=
  ∀ h ∈ headings es, P h.depth h.inner

theorem throughout_headed {P : Nat → List Outline → Prop} {depth : Nat} {title : List Char}
    {inner es : List Outline} : Throughout P (.headed depth title inner :: es) ↔
      P depth inner ∧ Throughout P inner ∧ Throughout P es := by
  rw [Throughout, headings_headed, List.forall_mem_cons, List.forall_mem_append, List.forall_mem_map,
    List.forall_mem_map]
  rfl

theorem throughout_text {P : Nat → List Outline → Prop} {t : List Char} {es : List Outline} :
    Throughout P (.text t :: es) ↔ Throughout P es := by
  rw [Throughout, headings_text]
  rfl

theorem Throughout.entry {P : Nat → List Outline → Prop} {es : List Outline}
    (h : Throughout P es) {depth : Nat} {title : List Char} {inner : List Outline}
    (hmem : .headed depth title inner ∈ es) : P depth inner := by
  induction es with
  | nil => cases hmem
  | cons e es ih =>
    cases e with
    | text t =>
      rcases List.mem_cons.mp hmem with he | hmem
      · cases he
      · exact ih (throughout_text.mp h) hmem
    | headed d t i =>
      obtain ⟨hhead, -, hes⟩ := throughout_headed.mp h
      rcases List.mem_cons.mp hmem with he | hmem
      · cases he
        exact hhead
      · exact ih hes hmem

theorem mem_of_headings {es : List Outline} {h : Headed} (hmem : h ∈ headings es)
    (hparent : h.parent = none) : .headed h.depth h.title h.inner ∈ es := by
  induction es generalizing h with
  | nil => cases hmem
  | cons e es ih =>
    cases e with
    | text t =>
      rw [headings_text] at hmem
      exact List.mem_cons_of_mem _ (ih hmem hparent)
    | headed depth title inner =>
      rw [headings_headed] at hmem
      rcases List.mem_cons.mp hmem with rfl | hmem
      · exact List.mem_cons_self
      · rcases List.mem_append.mp hmem with hmem | hmem
        · obtain ⟨⟨_ | j, d, t, i⟩, -, rfl⟩ := List.mem_map.mp hmem <;> cases hparent
        · obtain ⟨⟨_ | j, d, t, i⟩, hh, rfl⟩ := List.mem_map.mp hmem
          · exact List.mem_cons_of_mem _ (ih hh rfl)
          · cases hparent

/-! ### A heading in front -/

/-- What can be under a heading comes before what cannot, whatever the depth of the heading. -/
def Ordered (es : List Outline) : Prop :=
  es.Pairwise fun a b => ∀ depth, under depth b = true → under depth a = true

theorem not_under_of_dropWhile {es : List Outline} (h : Ordered es) (depth : Nat) :
    ∀ e ∈ es.dropWhile (under depth), under depth e = false := by
  induction es with
  | nil => simp
  | cons e es ih =>
    obtain ⟨he, hes⟩ := List.pairwise_cons.mp h
    rw [List.dropWhile_cons]
    split
    next => exact ih hes
    next hnot =>
      intro f hf
      rcases List.mem_cons.mp hf with rfl | hf
      · simpa using hnot
      · by_contra hunder
        exact hnot (he f hf depth (by simpa using hunder))

theorem ordered_place {es : List Outline} (h : Ordered es) (b : Block) : Ordered (place es b) := by
  cases b with
  | heading depth title =>
    refine List.pairwise_cons.mpr ⟨fun e he d hd => ?_, h.sublist (List.dropWhile_sublist _)⟩
    have hnot := not_under_of_dropWhile h depth e he
    cases e with
    | text t => cases hnot
    | headed d' t inner =>
      simp only [under, decide_eq_true_eq, decide_eq_false_iff_not] at hnot hd ⊢
      omega
  | _ => exact List.pairwise_cons.mpr ⟨fun _ _ _ _ => rfl, h⟩

theorem ordered_ofBlocks (bs : List Block) : Ordered (ofBlocks bs) := by
  induction bs with
  | nil => exact List.Pairwise.nil
  | cons b bs ih => exact ordered_place ih b

theorem headings_place {es : List Outline} (h : Ordered es) (depth : Nat) (title : List Char) :
    headings (place es (.heading depth title)) =
      ⟨none, depth, title, es.takeWhile (under depth)⟩ :: (headings es).map (.behind depth) := by
  -- a heading that stood in none is deeper if it is taken in and, `es` being in order, is not if it
  -- is not
  have hsplit := List.takeWhile_append_dropWhile (p := under depth) (l := es)
  generalize hinner : es.takeWhile (under depth) = inner at hsplit
  generalize hbeside : es.dropWhile (under depth) = beside at hsplit
  have hdeeper : ∀ g ∈ headings inner, g.behind depth = g.moved (some 0) 1 := by
    rintro ⟨_ | j, d, t, i⟩ hg
    · have hmem := mem_of_headings hg rfl
      rw [← hinner] at hmem
      have hunder : depth < d := by simpa [under] using List.mem_takeWhile_imp hmem
      simp [Headed.behind, Headed.moved, hunder]
    · rfl
  have hothers : ∀ n, ∀ g ∈ headings beside,
      (g.moved none n).behind depth = g.moved none (1 + n) := by
    rintro n ⟨_ | j, d, t, i⟩ hg
    · have hmem := mem_of_headings hg rfl
      rw [← hbeside] at hmem
      have hnot : ¬ depth < d := by simpa [under] using not_under_of_dropWhile h depth _ hmem
      simp [Headed.behind, Headed.moved, hnot]
    · simp only [Headed.behind, Headed.moved]
      congr 2
      omega
  rw [place, hinner, hbeside, headings_headed, ← hsplit, headings_append, List.map_append,
    List.map_map]
  congr 2
  · exact (List.map_congr_left hdeeper).symm
  · exact (List.map_congr_left (hothers _)).symm

end Outline
end Markdown
end PromptWeave
