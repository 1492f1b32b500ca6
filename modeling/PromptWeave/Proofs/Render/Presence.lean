import PromptWeave.Proofs.Render.Chunks

/-! What is shown of a section.
In every style the items that have content make a part each, which is never blank, and the others
make none. An area is written exactly when a leaf of its section has anything to show. -/
namespace PromptWeave
namespace Render

variable {o : FormatOptions}

theorem wrap_shows (style : SectionStyle) (level : Nat) (title : Option String) {body : List Char}
    (h : Text.allBlank body = false) : Text.allBlank (wrap o style level title body) = false := by
  cases title with
  | none => exact h
  | some t =>
    cases style with
    | tag =>
      have hopen : '<' ∈ wrapTag o t.toList body := by
        rw [wrapTag]
        split_ifs <;> simp [openTag]
      exact Text.allBlank_of_mem hopen rfl
    | markdown =>
      have hhash : '#' ∈ wrapMarkdown level t.toList body := by
        have hheading : '#' ∈ heading level t.toList := by simp [heading, hashes]
        rw [wrapMarkdown]
        split
        · exact hheading
        · exact List.mem_append_left _ (List.mem_append_left _ hheading)
      exact Text.allBlank_of_mem hhash rfl

theorem leaf_of_content (level : Nat) {l : Leaf} (h : l.hasContent = true) :
    ∃ part, leaf o level l = some part ∧ Text.allBlank part = false := by
  have hbody : (Text.trim l.text.toList).isEmpty = false := by simpa [hasContent_eq] using h
  refine ⟨_, by rw [leaf, if_neg (by simp [hbody])], wrap_shows _ _ _ ?_⟩
  rw [Text.allBlank_trim, hbody]

theorem leaf_of_blank (level : Nat) {l : Leaf} (h : l.hasContent = false) :
    leaf o level l = none := by
  rw [hasContent_eq] at h
  have hbody : Text.trim l.text.toList = [] := by simpa using h
  simp [leaf, hbody]

theorem joinParts_shows {ps : List (List Char)} (hne : ps ≠ [])
    (h : ∀ part ∈ ps, Text.allBlank part = false) : Text.allBlank (joinParts ps) = false := by
  obtain ⟨p, ps, rfl⟩ := List.exists_cons_of_ne_nil hne
  have hp := h p List.mem_cons_self
  by_cases hps : ps = []
  · rwa [hps, joinParts_singleton]
  · rw [joinParts_cons p hps, List.append_assoc, Text.allBlank_append, hp]
    rfl

/-- There is a part to write exactly when there is content, and each part shows something. -/
theorem parts_shown (items : List SectionItem) : ∀ level,
    (parts o level items = [] ↔ SectionItem.anyContent items = false) ∧
      ∀ part ∈ parts o level items, Text.allBlank part = false := by
  induction items using SectionItem.items_induction with
  | nil => simp [parts, SectionItem.anyContent]
  | leaf l is ih =>
    intro level
    rw [parts, item]
    cases hl : l.hasContent with
    | false =>
      rw [leaf_of_blank level hl]
      simpa [SectionItem.anyContent, SectionItem.hasContent, hl] using ih level
    | true =>
      obtain ⟨part, hpart, hshows⟩ := leaf_of_content (o := o) level hl
      rw [hpart]
      exact ⟨by simp [SectionItem.anyContent, SectionItem.hasContent, hl],
        List.forall_mem_cons.mpr ⟨hshows, (ih level).2⟩⟩
  | branch head inner is ihinner ih =>
    intro level
    rw [parts, item]
    cases hinner : SectionItem.anyContent inner with
    | false => simpa [SectionItem.anyContent, SectionItem.hasContent, hinner] using ih level
    | true =>
      obtain ⟨hnil, hparts⟩ := ihinner (inside head.title level)
      have hne : parts o (inside head.title level) inner ≠ [] := by
        rw [Ne, hnil, hinner]
        simp
      simp only [if_true]
      exact ⟨by simp [SectionItem.anyContent, SectionItem.hasContent, hinner],
        List.forall_mem_cons.mpr ⟨wrap_shows _ _ _ (joinParts_shows hne hparts), (ih level).2⟩⟩

theorem ne_nil_of_parts {level : Nat} {items : List SectionItem} :
    ∀ part ∈ parts o level items, part ≠ [] := by
  rintro part hpart rfl
  cases (parts_shown items level).2 [] hpart

theorem body_shows (level : Nat) {s : Section} (h : s.hasContent = true) :
    Text.allBlank (body o level s) = false := by
  obtain ⟨hnil, hparts⟩ := parts_shown (o := o) s.items level
  have hcontent : SectionItem.anyContent s.items = true := h
  refine joinParts_shows ?_ hparts
  rw [Ne, hnil, hcontent]
  simp

theorem area_shows {a : Area} {s : Section} {text : List Char} (h : area o a s = some text) :
    Text.allBlank text = false := by
  unfold area at h
  split_ifs at h with hcontent ha
  · cases h
    exact body_shows 1 hcontent
  · cases h
    exact wrap_shows (o := o) (o.styleFor a) 1 (some _) (body_shows 2 hcontent)

end Render

theorem blank_renderArea {o : FormatOptions} {p : Prompt} {a : Area} {text : String}
    (h : renderArea o p a = some text) : blank text = false := by
  obtain ⟨s, -, hs⟩ := Option.bind_eq_some_iff.mp h
  obtain ⟨chars, hchars, rfl⟩ := Option.map_eq_some_iff.mp hs
  rw [blank, String.toList_ofList]
  exact Render.area_shows hchars

theorem renderArea_ne_empty {o : FormatOptions} {p : Prompt} {a : Area} {text : String}
    (h : renderArea o p a = some text) : text ≠ "" := by
  rintro rfl
  cases blank_renderArea h

theorem renderArea_eq_none (o : FormatOptions) (p : Prompt) (a : Area) :
    renderArea o p a = none ↔
      ∀ s, p.section? a = some s → ∀ l ∈ s.leaves, blank l.text = true := by
  simp only [← Section.hasContent_eq_false, renderArea]
  cases p.section? a with
  | none => simp
  | some s => cases hs : s.hasContent <;> simp [Render.area, hs]

end PromptWeave
