import PromptWeave.Section.Basic

/-! The items of a section: induction, other texts in the places of theirs, and what they hold
besides their parameters. -/
namespace PromptWeave

theorem Leaf.resolved_eq (params : Option Parameters) (leaf : Leaf) :
    { leaf.resolved params with parameters := none } =
      { leaf with text := Parameters.substitute? params leaf.text, parameters := none } := by
  cases params <;> rfl

namespace SectionItem

/-- What holds of no items and is kept when a leaf or a section is put in front holds of all items. -/
theorem items_induction {motive : List SectionItem → Prop} (nil : motive [])
    (leaf : ∀ l is, motive is → motive (.leaf l :: is))
    (branch : ∀ head inner is, motive inner → motive is → motive (.branch head inner :: is)) :
    ∀ is, motive is
  | [] => nil
  | .leaf l :: is => leaf l is (items_induction nil leaf branch is)
  | .branch head inner :: is =>
    branch head inner is (items_induction nil leaf branch inner)
      (items_induction nil leaf branch is)

mutual
/-- The same item with each section title and each text of a leaf changed. -/
def mapTexts (f : String → String) : SectionItem → SectionItem
  | .leaf l => .leaf { l with text := f l.text }
  | .branch head items => .branch { head with title := head.title.map f } (mapTextsAll f items)
def mapTextsAll (f : String → String) : List SectionItem → List SectionItem
  | [] => []
  | i :: is => mapTexts f i :: mapTextsAll f is
end

theorem mapTextsAll_eq (f : String → String) (items : List SectionItem) :
    mapTextsAll f items = items.map (mapTexts f) := by
  induction items with
  | nil => rfl
  | cons i is ih => rw [mapTextsAll, ih, List.map_cons]

theorem mapTextsAll_append (f : String → String) (xs ys : List SectionItem) :
    mapTextsAll f (xs ++ ys) = mapTextsAll f xs ++ mapTextsAll f ys := by
  simp [mapTextsAll_eq]

mutual
def withoutParameters : SectionItem → SectionItem
  | .leaf l => .leaf { l with parameters := none }
  | .branch head items => .branch { head with parameters := none } (withoutParametersAll items)
def withoutParametersAll : List SectionItem → List SectionItem
  | [] => []
  | i :: is => withoutParameters i :: withoutParametersAll is
end

theorem withoutParametersAll_eq (items : List SectionItem) :
    withoutParametersAll items = items.map withoutParameters := by
  induction items with
  | nil => rfl
  | cons i is ih => rw [withoutParametersAll, ih, List.map_cons]

/-- The items are those given with their texts changed, and may record other parameters. -/
def AllFilled (items : List SectionItem) (f : String → String) (raw : List SectionItem) : Prop :=
  withoutParametersAll items = withoutParametersAll (mapTextsAll f raw)

instance (items : List SectionItem) (f : String → String) (raw : List SectionItem) :
    Decidable (AllFilled items f raw) :=
  inferInstanceAs (Decidable (_ = _))

theorem AllFilled.append {xs ys xraw yraw : List SectionItem} {f : String → String}
    (hx : AllFilled xs f xraw) (hy : AllFilled ys f yraw) :
    AllFilled (xs ++ ys) f (xraw ++ yraw) := by
  simp only [AllFilled, withoutParametersAll_eq, mapTextsAll_eq, List.map_append] at hx hy ⊢
  rw [hx, hy]

mutual
def leaves : SectionItem → List Leaf
  | .leaf l => [l]
  | .branch _ items => leavesAll items
def leavesAll : List SectionItem → List Leaf
  | [] => []
  | i :: is => leaves i ++ leavesAll is
end

theorem AllFilled.text_eq {items raw : List SectionItem} {f g : String → String}
    (hf : AllFilled items f raw) (hg : AllFilled items g raw) :
    ∀ l ∈ leavesAll raw, f l.text = g l.text := by
  have hsame : withoutParametersAll (mapTextsAll f raw) = withoutParametersAll (mapTextsAll g raw) :=
    hf.symm.trans hg
  clear hf hg
  induction raw using items_induction with
  | nil => simp [leavesAll]
  | leaf l is ih =>
    simp only [mapTextsAll, mapTexts, withoutParametersAll, withoutParameters, List.cons.injEq,
      SectionItem.leaf.injEq, Leaf.mk.injEq] at hsame
    simp only [leavesAll, leaves, List.mem_append, List.mem_singleton]
    rintro m (rfl | hm)
    · exact hsame.1.2.1
    · exact ih hsame.2 m hm
  | branch head inner is ihinner ih =>
    simp only [mapTextsAll, mapTexts, withoutParametersAll, withoutParameters, List.cons.injEq,
      SectionItem.branch.injEq] at hsame
    simp only [leavesAll, leaves, List.mem_append]
    rintro m (hm | hm)
    · exact ihinner hsame.1.2 m hm
    · exact ih hsame.2 m hm

theorem anyContent_eq (items : List SectionItem) :
    anyContent items = (leavesAll items).any Leaf.hasContent := by
  induction items using items_induction with
  | nil => rfl
  | leaf l is ih => simp [anyContent, hasContent, leavesAll, leaves, ih]
  | branch head inner is ihinner ih =>
    simp [anyContent, hasContent, leavesAll, leaves, ihinner, ih]

mutual
def leafTitles : SectionItem → List String
  | .leaf l => l.title.toList
  | .branch _ items => leafTitlesAll items
def leafTitlesAll : List SectionItem → List String
  | [] => []
  | i :: is => leafTitles i ++ leafTitlesAll is
end

theorem leafTitlesAll_eq (items : List SectionItem) :
    leafTitlesAll items = items.flatMap leafTitles := by
  induction items with
  | nil => rfl
  | cons i is ih => rw [leafTitlesAll, ih, List.flatMap_cons]

theorem leafTitlesAll_append (xs ys : List SectionItem) :
    leafTitlesAll (xs ++ ys) = leafTitlesAll xs ++ leafTitlesAll ys := by
  simp [leafTitlesAll_eq]

theorem leafTitlesAll_toItem {ss : List Section} (h : ∀ s ∈ ss, leafTitlesAll s.items = []) :
    leafTitlesAll (ss.map Section.toItem) = [] := by
  rw [leafTitlesAll_eq, List.flatMap_map, List.flatMap_eq_nil_iff]
  exact h

mutual
def mapLeafTitles (f : String → String) : SectionItem → SectionItem
  | .leaf l => .leaf { l with title := l.title.map f }
  | .branch head items => .branch head (mapLeafTitlesAll f items)
def mapLeafTitlesAll (f : String → String) : List SectionItem → List SectionItem
  | [] => []
  | i :: is => mapLeafTitles f i :: mapLeafTitlesAll f is
end

theorem title_eq_map_iff (f : String → String) (title : Option String) :
    title = title.map f ↔ ∀ t ∈ title.toList, f t = t := by
  cases title <;> simp [eq_comm]

/-- Items filled from others are filled in the titles of their leaves too when these stay as they
are. -/
theorem AllFilled.leafTitles_iff {items raw : List SectionItem} {f : String → String}
    (h : AllFilled items f raw) :
    AllFilled items f (mapLeafTitlesAll f raw) ↔ ∀ t ∈ leafTitlesAll raw, f t = t := by
  rw [AllFilled, h]
  clear h
  induction raw using items_induction with
  | nil => simp [mapLeafTitlesAll, leafTitlesAll]
  | leaf l is ih =>
    simp only [mapTextsAll, mapTexts, mapLeafTitlesAll, mapLeafTitles, withoutParametersAll,
      withoutParameters, List.cons.injEq, SectionItem.leaf.injEq, Leaf.mk.injEq, true_and, ih,
      title_eq_map_iff, leafTitlesAll, SectionItem.leafTitles, List.forall_mem_append]
  | branch head inner is ihinner ih =>
    simp only [mapTextsAll, mapTexts, mapLeafTitlesAll, mapLeafTitles, withoutParametersAll,
      withoutParameters, List.cons.injEq, SectionItem.branch.injEq, true_and, ihinner, ih,
      leafTitlesAll, SectionItem.leafTitles, List.forall_mem_append]

end SectionItem

def Section.mapTexts (f : String → String) (s : Section) : Section :=
  ⟨{ s.head with title := s.head.title.map f }, SectionItem.mapTextsAll f s.items⟩

def Section.leaves (s : Section) : List Leaf := SectionItem.leavesAll s.items

theorem Section.hasContent_eq_false (s : Section) :
    s.hasContent = false ↔ ∀ l ∈ s.leaves, blank l.text = true := by
  simp [hasContent, SectionItem.anyContent_eq, leaves, Leaf.hasContent]

def Section.extend (s : Section) (items : List SectionItem) : Section :=
  { s with items := s.items ++ items }

def Section.withoutParameters (s : Section) : Section :=
  ⟨{ s.head with parameters := none }, SectionItem.withoutParametersAll s.items⟩

/-- The section is the one given with its texts changed, and may record other parameters. -/
def Section.FilledFrom (s : Section) (f : String → String) (raw : Section) : Prop :=
  s.withoutParameters = (raw.mapTexts f).withoutParameters

namespace Section.FilledFrom

variable {s raw : Section} {f : String → String}

theorem head (h : s.FilledFrom f raw) :
    { s.head with parameters := none } =
      { raw.head with title := raw.head.title.map f, parameters := none } :=
  congrArg Section.head h

theorem items (h : s.FilledFrom f raw) : SectionItem.AllFilled s.items f raw.items :=
  congrArg Section.items h

theorem extend (h : s.FilledFrom f raw) {more rawMore : List SectionItem}
    (hmore : SectionItem.AllFilled more f rawMore) :
    (s.extend more).FilledFrom f (raw.extend rawMore) := by
  have hitems : SectionItem.withoutParametersAll (s.items ++ more) =
      SectionItem.withoutParametersAll (SectionItem.mapTextsAll f (raw.items ++ rawMore)) :=
    h.items.append hmore
  simp only [FilledFrom, withoutParameters, mapTexts, Section.extend, h.head, hitems]

theorem toItem (h : s.FilledFrom f raw) : SectionItem.AllFilled [s.toItem] f [raw.toItem] := by
  have hitems : SectionItem.withoutParametersAll s.items =
      SectionItem.withoutParametersAll (SectionItem.mapTextsAll f raw.items) := h.items
  simp only [SectionItem.AllFilled, Section.toItem, SectionItem.mapTextsAll, SectionItem.mapTexts,
    SectionItem.withoutParametersAll, SectionItem.withoutParameters, h.head, hitems]

end Section.FilledFrom
end PromptWeave
