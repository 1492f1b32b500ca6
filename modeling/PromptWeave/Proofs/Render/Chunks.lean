import PromptWeave.Proofs.Section
import PromptWeave.Proofs.Text
import PromptWeave.Render

/-! Rendered sections as rows of chunks.
In the markdown style a section is written as its headings and texts one after another, as they come
in the tree, with a blank line between neighbours. -/
namespace PromptWeave
namespace Render

/-! ### Chunks in a row -/

@[simp] theorem joinParts_nil : joinParts [] = [] := rfl

@[simp] theorem joinParts_singleton (c : List Char) : joinParts [c] = c := by
  simp [joinParts, List.intercalate]

theorem joinParts_cons (c : List Char) {cs : List (List Char)} (h : cs ≠ []) :
    joinParts (c :: cs) = c ++ blankLine ++ joinParts cs := by
  obtain ⟨d, ds, rfl⟩ := List.exists_cons_of_ne_nil h
  simp [joinParts, List.intercalate]

theorem joinParts_append {cs ds : List (List Char)} (hcs : cs ≠ []) (hds : ds ≠ []) :
    joinParts (cs ++ ds) = joinParts cs ++ blankLine ++ joinParts ds := by
  induction cs with
  | nil => exact absurd rfl hcs
  | cons c cs ih =>
    by_cases h : cs = []
    · subst h
      rw [List.singleton_append, joinParts_cons c hds, joinParts_singleton]
    · have happend : cs ++ ds ≠ [] := by simp [h]
      rw [List.cons_append, joinParts_cons c happend, ih h, joinParts_cons c h]
      simp only [List.append_assoc]

theorem joinParts_eq_nil {cs : List (List Char)} (h : ∀ c ∈ cs, c ≠ []) :
    joinParts cs = [] ↔ cs = [] := by
  cases cs with
  | nil => simp
  | cons c cs =>
    have hc : c ≠ [] := h c List.mem_cons_self
    by_cases hcs : cs = []
    · simp [hcs, hc]
    · simp [joinParts_cons c hcs, hc]

theorem joinParts_flatten {css : List (List (List Char))} (h : ∀ cs ∈ css, cs ≠ []) :
    joinParts (css.map joinParts) = joinParts css.flatten := by
  induction css with
  | nil => rfl
  | cons cs css ih =>
    obtain ⟨hcs, hcss⟩ := List.forall_mem_cons.mp h
    rw [List.map_cons, List.flatten_cons]
    by_cases hnil : css = []
    · simp [hnil]
    · have hmap : css.map joinParts ≠ [] := by simpa using hnil
      have hflatten : css.flatten ≠ [] := by
        obtain ⟨ds, dss, rfl⟩ := List.exists_cons_of_ne_nil hnil
        simp [hcss ds List.mem_cons_self]
      rw [joinParts_cons _ hmap, ih hcss, joinParts_append hcs hflatten]

/-! ### Chunks of a section -/

def titleChunk (level : Nat) (title : Option String) : List (List Char) :=
  (title.map fun t => heading level t.toList).toList

mutual
/-- The headings and texts that an item shows, in the order of the tree. -/
def chunks (level : Nat) : SectionItem → List (List Char)
  | .leaf l =>
    if l.hasContent then titleChunk level l.title ++ [Text.trim l.text.toList] else []
  | .branch head items =>
    if SectionItem.anyContent items then
      titleChunk level head.title ++ chunksAll (inside head.title level) items
    else []
def chunksAll (level : Nat) : List SectionItem → List (List Char)
  | [] => []
  | i :: is => chunks level i ++ chunksAll level is
end

theorem hasContent_eq (l : Leaf) : l.hasContent = !(Text.trim l.text.toList).isEmpty := by
  rw [Leaf.hasContent, blank, Text.allBlank_eq_isEmpty_trim]

theorem ne_nil_of_titleChunk {level : Nat} {title : Option String} {c : List Char}
    (h : c ∈ titleChunk level title) : c ≠ [] := by
  cases title with
  | none => simp [titleChunk] at h
  | some t =>
    have hc : c = heading level t.toList := by simpa [titleChunk] using h
    simp [hc, heading]

theorem ne_nil_of_chunksAll (items : List SectionItem) :
    ∀ level, ∀ c ∈ chunksAll level items, c ≠ [] := by
  induction items using SectionItem.items_induction with
  | nil => simp [chunksAll]
  | leaf l is ih =>
    intro level c hc
    rw [chunksAll, chunks, hasContent_eq] at hc
    rcases List.mem_append.mp hc with hc | hc
    · split_ifs at hc with hcontent
      · rcases List.mem_append.mp hc with hc | hc
        · exact ne_nil_of_titleChunk hc
        · simp_all
      · cases hc
    · exact ih level c hc
  | branch head inner is ihinner ih =>
    intro level c hc
    rw [chunksAll, chunks] at hc
    rcases List.mem_append.mp hc with hc | hc
    · split_ifs at hc
      · rcases List.mem_append.mp hc with hc | hc
        · exact ne_nil_of_titleChunk hc
        · exact ihinner _ c hc
      · cases hc
    · exact ih level c hc

theorem chunksAll_eq_nil (items : List SectionItem) :
    ∀ level, chunksAll level items = [] ↔ SectionItem.anyContent items = false := by
  induction items using SectionItem.items_induction with
  | nil => simp [chunksAll, SectionItem.anyContent]
  | leaf l is ih =>
    intro level
    cases hl : l.hasContent <;>
      simp [chunksAll, chunks, SectionItem.anyContent, SectionItem.hasContent, hl, ih]
  | branch head inner is ihinner ih =>
    intro level
    cases hinner : SectionItem.anyContent inner <;>
      simp [chunksAll, chunks, SectionItem.anyContent, SectionItem.hasContent, hinner, ihinner, ih]

theorem chunks_eq_nil (level : Nat) (i : SectionItem) :
    chunks level i = [] ↔ i.hasContent = false := by
  have hsingle := chunksAll_eq_nil [i] level
  simpa [chunksAll, SectionItem.anyContent] using hsingle

theorem chunksAll_eq (level : Nat) (items : List SectionItem) :
    chunksAll level items =
      ((items.filter SectionItem.hasContent).map (chunks level)).flatten := by
  induction items with
  | nil => rfl
  | cons i is ih =>
    rw [chunksAll, ih, List.filter_cons]
    cases hi : i.hasContent with
    | false => simp [(chunks_eq_nil level i).mpr hi]
    | true => rfl

theorem joinParts_shown (level : Nat) (items : List SectionItem) :
    joinParts (((items.filter SectionItem.hasContent).map (chunks level)).map joinParts) =
      joinParts (chunksAll level items) := by
  rw [chunksAll_eq, joinParts_flatten]
  intro cs hcs
  obtain ⟨i, hi, rfl⟩ := List.mem_map.mp hcs
  have hcontent := (List.mem_filter.mp hi).2
  simp [chunks_eq_nil, hcontent]

variable {o : FormatOptions}

theorem parts_cons (level : Nat) (i : SectionItem) (is : List SectionItem) :
    parts o level (i :: is) = (item o level i).toList ++ parts o level is := by
  rw [parts]
  cases item o level i <;> rfl

/-! ### Rendering in the markdown style -/

theorem wrap_joinParts (level : Nat) (title : Option String) {cs : List (List Char)}
    (h : ∀ c ∈ cs, c ≠ []) :
    wrap o .markdown level title (joinParts cs) = joinParts (titleChunk level title ++ cs) := by
  cases title with
  | none => rfl
  | some t =>
    have hchunk : titleChunk level (some t) = [heading level t.toList] := rfl
    rw [hchunk, List.singleton_append, wrap, wrapTitled, wrapMarkdown]
    by_cases hcs : cs = []
    · simp [hcs]
    · have hbody : joinParts cs ≠ [] := fun he => hcs ((joinParts_eq_nil h).mp he)
      simp [hbody, joinParts_cons _ hcs]

theorem leaf_eq (ho : o.sectionStyle = .markdown) (level : Nat) (l : Leaf) :
    leaf o level l = if l.hasContent then some (joinParts (chunks level (.leaf l))) else none := by
  rw [leaf, chunks, hasContent_eq, ho]
  by_cases hbody : Text.trim l.text.toList = []
  · simp [hbody]
  · have hshown : ∀ c ∈ [Text.trim l.text.toList], c ≠ [] := by simpa using hbody
    have hwrap := wrap_joinParts (o := o) level l.title hshown
    rw [joinParts_singleton] at hwrap
    simp [hbody, hwrap]

/-- The items that show something make one part each, of their chunks. -/
theorem parts_eq (ho : o.sectionStyle = .markdown) (items : List SectionItem) :
    ∀ level, parts o level items =
      ((items.filter SectionItem.hasContent).map (chunks level)).map joinParts := by
  induction items using SectionItem.items_induction with
  | nil => exact fun _ => rfl
  | leaf l is ih =>
    intro level
    rw [parts, item, leaf_eq ho, ih, List.filter_cons, SectionItem.hasContent]
    cases l.hasContent <;> rfl
  | branch head inner is ihinner ih =>
    intro level
    have hinner : joinParts (parts o (inside head.title level) inner) =
        joinParts (chunksAll (inside head.title level) inner) := by
      rw [ihinner, joinParts_shown]
    rw [parts, item, ih, hinner, ho, wrap_joinParts level head.title (ne_nil_of_chunksAll inner _),
      List.filter_cons, SectionItem.hasContent]
    cases hcontent : SectionItem.anyContent inner with
    | false => rfl
    | true => simp [chunks, hcontent]

/-- A section is written as its headings and texts, with blank lines between them. -/
theorem sectionAt_eq (ho : o.sectionStyle = .markdown) (level : Nat) (s : Section) :
    sectionAt o level s =
      joinParts (titleChunk level s.head.title ++ chunksAll (inside s.head.title level) s.items) := by
  rw [sectionAt, body, ho, parts_eq ho, joinParts_shown,
    wrap_joinParts level _ (ne_nil_of_chunksAll _ _)]

end Render
end PromptWeave
