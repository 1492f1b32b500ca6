import PromptWeave.Format
import PromptWeave.Proofs.Render.Presence

/-! What the request for a prompt depends on.
Blank leaves and sections without content can be left out, an untitled section can make way for what
is in it, and of all else only titles and texts matter. When nothing of this is left to be done a
section is in its normal form. Sections that can be changed into one another in these ways are those
of the same normal form, and each is written as its normal form is. -/
namespace PromptWeave

namespace SectionItem

/-- Items that differ in what is not shown. The changes can be made anywhere and in either direction. -/
inductive Reshaped : List SectionItem → List SectionItem → Prop
  | refl (items : List SectionItem) : Reshaped items items
  | symm {xs ys : List SectionItem} (h : Reshaped xs ys) : Reshaped ys xs
  | trans {xs ys zs : List SectionItem} (h : Reshaped xs ys) (h' : Reshaped ys zs) : Reshaped xs zs
  | behind (i : SectionItem) {xs ys : List SectionItem} (h : Reshaped xs ys) :
      Reshaped (i :: xs) (i :: ys)
  | dropLeaf {l : Leaf} (is : List SectionItem) (h : blank l.text = true) :
      Reshaped (.leaf l :: is) is
  | dropBranch (head : SectionHead) {inner : List SectionItem} (is : List SectionItem)
      (h : ∀ l ∈ leavesAll inner, blank l.text = true) : Reshaped (.branch head inner :: is) is
  | splice {head : SectionHead} (inner is : List SectionItem) (h : head.title = none) :
      Reshaped (.branch head inner :: is) (inner ++ is)
  | leaf {l m : Leaf} (is : List SectionItem) (htext : l.text = m.text) (htitle : l.title = m.title) :
      Reshaped (.leaf l :: is) (.leaf m :: is)
  | branch {head other : SectionHead} {xs ys : List SectionItem} (is : List SectionItem)
      (htitle : head.title = other.title) (h : Reshaped xs ys) :
      Reshaped (.branch head xs :: is) (.branch other ys :: is)

mutual
/-- An item without anything that is not shown, where it leaves one or more items. -/
def normal : SectionItem → List SectionItem
  | .leaf l => if l.hasContent then [.leaf ⟨default, l.text, none, none, l.title⟩] else []
  | .branch head items => match head.title with
    | none => normalAll items
    | some title =>
      if anyContent items then [.branch ⟨some title, default, none, none, none⟩ (normalAll items)]
      else []
def normalAll : List SectionItem → List SectionItem
  | [] => []
  | i :: is => normal i ++ normalAll is
end

theorem normalAll_append (xs ys : List SectionItem) :
    normalAll (xs ++ ys) = normalAll xs ++ normalAll ys := by
  induction xs with
  | nil => rfl
  | cons x xs ih => rw [List.cons_append, normalAll, normalAll, ih, List.append_assoc]

theorem normal_untitled {head : SectionHead} (items : List SectionItem) (h : head.title = none) :
    normal (.branch head items) = normalAll items := by
  rw [normal, h]

theorem normal_titled {head : SectionHead} {title : String} (items : List SectionItem)
    (h : head.title = some title) : normal (.branch head items) =
      if anyContent items then [.branch ⟨some title, default, none, none, none⟩ (normalAll items)]
      else [] := by
  rw [normal, h]

theorem anyContent_append (xs ys : List SectionItem) :
    anyContent (xs ++ ys) = (anyContent xs || anyContent ys) := by
  induction xs with
  | nil => rfl
  | cons x xs ih => rw [List.cons_append, anyContent, anyContent, ih, Bool.or_assoc]

theorem anyContent_normalAll (items : List SectionItem) :
    anyContent (normalAll items) = anyContent items := by
  induction items using items_induction with
  | nil => rfl
  | leaf l is ih =>
    rw [normalAll, anyContent_append, ih, normal, anyContent, hasContent]
    cases hl : l.hasContent with
    | false => rfl
    | true =>
      have hshown : Leaf.hasContent ⟨default, l.text, none, none, l.title⟩ = true := hl
      simp [anyContent, hasContent, hshown]
  | branch head inner is ihinner ih =>
    rw [normalAll, anyContent_append, ih, anyContent, hasContent]
    congr 1
    cases htitle : head.title with
    | none => rw [normal_untitled inner htitle, ihinner]
    | some title =>
      rw [normal_titled inner htitle]
      cases hinner : anyContent inner with
      | false => rfl
      | true => simp [anyContent, hasContent, ihinner, hinner]

theorem normalAll_eq_nil {items : List SectionItem} (h : anyContent items = false) :
    normalAll items = [] := by
  induction items using items_induction with
  | nil => rfl
  | leaf l is ih =>
    obtain ⟨hl, his⟩ := Bool.or_eq_false_iff.mp h
    rw [normalAll, normal, ih his, if_neg (by simpa [hasContent] using hl)]
    rfl
  | branch head inner is ihinner ih =>
    obtain ⟨hinner, his⟩ := Bool.or_eq_false_iff.mp h
    rw [normalAll, ih his]
    cases htitle : head.title with
    | none => rw [normal_untitled inner htitle, ihinner hinner]; rfl
    | some title =>
      rw [normal_titled inner htitle, if_neg (by simpa [hasContent] using hinner)]
      rfl

theorem Reshaped.normalAll_eq {xs ys : List SectionItem} (h : Reshaped xs ys) :
    normalAll xs = normalAll ys := by
  induction h with
  | refl => rfl
  | symm _ ih => exact ih.symm
  | trans _ _ ih ih' => exact ih.trans ih'
  | behind i _ ih => rw [normalAll, normalAll, ih]
  | dropLeaf is h => simp [normalAll, normal, Leaf.hasContent, h]
  | @dropBranch head inner is h =>
    have hinner : anyContent [.branch head inner] = false := by
      simpa [anyContent, hasContent, anyContent_eq, Leaf.hasContent] using h
    have hnone := normalAll_eq_nil hinner
    rw [normalAll, normalAll, List.append_nil] at hnone
    rw [normalAll, hnone, List.nil_append]
  | splice inner is h => rw [normalAll, normal_untitled inner h, normalAll_append]
  | leaf is htext htitle =>
    rw [normalAll, normalAll, normal, normal, Leaf.hasContent, Leaf.hasContent, htext, htitle]
  | @branch head other xs ys is htitle _ ih =>
    have hcontent : anyContent xs = anyContent ys := by
      rw [← anyContent_normalAll xs, ih, anyContent_normalAll]
    rw [normalAll, normalAll, normal, normal, htitle, ih, hcontent]

/-- All items can be brought into their normal form. -/
theorem reshaped_normalAll (items : List SectionItem) : Reshaped items (normalAll items) := by
  induction items using items_induction with
  | nil => exact .refl []
  | leaf l is ih =>
    rw [normalAll, normal]
    cases hl : l.hasContent with
    | false =>
      have hblank : blank l.text = true := by simpa [Leaf.hasContent] using hl
      exact .trans (.dropLeaf is hblank) ih
    | true =>
      rw [if_pos rfl]
      refine .trans ?_ (.behind _ ih)
      exact .leaf is rfl rfl
  | branch head inner is ihinner ih =>
    rw [normalAll]
    cases htitle : head.title with
    | none =>
      rw [normal_untitled inner htitle]
      have hhead : Reshaped (.branch head inner :: is)
          (.branch head (normalAll inner) :: normalAll is) :=
        .trans (.branch is rfl ihinner) (.behind _ ih)
      exact .trans hhead (.splice _ _ htitle)
    | some title =>
      rw [normal_titled inner htitle]
      cases hinner : anyContent inner with
      | false =>
        have hblank : ∀ l ∈ leavesAll inner, blank l.text = true := by
          simpa [anyContent_eq, Leaf.hasContent] using hinner
        exact .trans (.dropBranch head is hblank) ih
      | true => exact .trans (.branch is htitle ihinner) (.behind _ ih)

theorem reshaped_iff {xs ys : List SectionItem} : Reshaped xs ys ↔ normalAll xs = normalAll ys := by
  refine ⟨Reshaped.normalAll_eq, fun h => ?_⟩
  have hxs := reshaped_normalAll xs
  rw [h] at hxs
  exact hxs.trans (reshaped_normalAll ys).symm

end SectionItem

/-! ### Rendering the normal form -/

namespace Render

def apart (a b : List Char) : List Char :=
  if a.isEmpty then b else if b.isEmpty then a else a ++ blankLine ++ b

theorem joinParts_apart {ps qs : List (List Char)} (hps : ∀ p ∈ ps, p ≠ [])
    (hqs : ∀ q ∈ qs, q ≠ []) : joinParts (ps ++ qs) = apart (joinParts ps) (joinParts qs) := by
  by_cases hp : ps = []
  · simp [hp, apart]
  by_cases hq : qs = []
  · simp [hq, apart, joinParts_eq_nil hps, hp]
  · rw [joinParts_append hp hq, apart]
    simp [joinParts_eq_nil hps, joinParts_eq_nil hqs, hp, hq]

variable {o : FormatOptions}

theorem parts_append (level : Nat) (xs ys : List SectionItem) :
    parts o level (xs ++ ys) = parts o level xs ++ parts o level ys := by
  induction xs with
  | nil => rfl
  | cons x xs ih => rw [List.cons_append, parts_cons, parts_cons, ih, List.append_assoc]

theorem joinParts_parts_append (level : Nat) (xs ys : List SectionItem) :
    joinParts (parts o level (xs ++ ys)) =
      apart (joinParts (parts o level xs)) (joinParts (parts o level ys)) := by
  rw [parts_append, joinParts_apart ne_nil_of_parts ne_nil_of_parts]

theorem parts_leaf (level : Nat) (l : Leaf) : parts o level [.leaf l] = (leaf o level l).toList := by
  rw [parts_cons, item, parts, List.append_nil]

theorem parts_branch (level : Nat) (head : SectionHead) (items : List SectionItem) :
    parts o level [.branch head items] =
      if SectionItem.anyContent items then
        [wrap o o.sectionStyle level head.title
          (joinParts (parts o (inside head.title level) items))]
      else [] := by
  rw [parts_cons, item, parts, List.append_nil]
  split <;> rfl

/-- In every style and at every level items are written as their normal form is. -/
theorem joinParts_normalAll (items : List SectionItem) : ∀ level,
    joinParts (parts o level (SectionItem.normalAll items)) = joinParts (parts o level items) := by
  induction items using SectionItem.items_induction with
  | nil => exact fun _ => rfl
  | leaf l is ih =>
    intro level
    have hleaf : joinParts (parts o level (SectionItem.normal (.leaf l))) =
        joinParts (parts o level [.leaf l]) := by
      rw [SectionItem.normal]
      cases hl : l.hasContent with
      | false => rw [parts_leaf, leaf_of_blank level hl]; rfl
      | true => rw [if_pos rfl, parts_leaf, parts_leaf]; rfl
    rw [SectionItem.normalAll, joinParts_parts_append, hleaf, ih, ← joinParts_parts_append,
      List.singleton_append]
  | branch head inner is ihinner ih =>
    intro level
    have hbranch : joinParts (parts o level (SectionItem.normal (.branch head inner))) =
        joinParts (parts o level [.branch head inner]) := by
      rw [parts_branch]
      cases htitle : head.title with
      | none =>
        rw [SectionItem.normal_untitled inner htitle, ihinner]
        cases hinner : SectionItem.anyContent inner with
        | false => rw [(parts_shown inner level).1.mpr hinner]; rfl
        | true => rw [if_pos rfl, joinParts_singleton]; rfl
      | some title =>
        rw [SectionItem.normal_titled inner htitle]
        cases hinner : SectionItem.anyContent inner with
        | false => rfl
        | true =>
          rw [if_pos rfl, if_pos rfl, parts_branch, SectionItem.anyContent_normalAll, hinner,
            if_pos rfl, ihinner]
    rw [SectionItem.normalAll, joinParts_parts_append, hbranch, ih, ← joinParts_parts_append,
      List.singleton_append]

end Render

/-! ### Prompts -/

namespace Section

/-- Sections with the same title of which the items differ in what is not shown. -/
def Reshaped (s t : Section) : Prop :=
  s.head.title = t.head.title ∧ SectionItem.Reshaped s.items t.items

def normal (s : Section) : Section :=
  ⟨⟨s.head.title, default, none, none, none⟩, SectionItem.normalAll s.items⟩

theorem reshaped_iff {s t : Section} : s.Reshaped t ↔ s.normal = t.normal := by
  rw [Reshaped, SectionItem.reshaped_iff, normal, normal, Section.mk.injEq, SectionHead.mk.injEq]
  simp

theorem hasContent_normal (s : Section) : s.normal.hasContent = s.hasContent :=
  SectionItem.anyContent_normalAll s.items

end Section

theorem Render.area_normal (o : FormatOptions) (a : Area) (s : Section) :
    Render.area o a s.normal = Render.area o a s := by
  have hbody : ∀ level, Render.body o level s.normal = Render.body o level s :=
    Render.joinParts_normalAll s.items
  rw [Render.area, Render.area, Section.hasContent_normal, hbody, hbody]
  rfl

namespace Prompt

structure Reshaped (p q : Prompt) : Prop where
  sections : ∀ a, Option.Rel Section.Reshaped (p.section? a) (q.section? a)
  structuredOutput : p.structuredOutput = q.structuredOutput

end Prompt

theorem renderArea_congr (o : FormatOptions) {p q : Prompt} {a : Area}
    (h : Option.Rel Section.Reshaped (p.section? a) (q.section? a)) :
    renderArea o p a = renderArea o q a := by
  rw [renderArea, renderArea]
  generalize p.section? a = s?, q.section? a = t? at h ⊢
  cases h with
  | none => rfl
  | @some s t hst =>
    have hnormal := Section.reshaped_iff.mp hst
    have harea : Render.area o a s = Render.area o a t := by
      rw [← Render.area_normal, hnormal, Render.area_normal]
    rw [Option.bind_some, Option.bind_some, harea]

theorem renderArea_isSome (o : FormatOptions) (p : Prompt) (a : Area) :
    (renderArea o p a).isSome ↔
      ∃ s, p.section? a = some s ∧ ∃ l ∈ s.leaves, blank l.text = false := by
  rw [renderArea]
  cases p.section? a with
  | none => simp
  | some s =>
    have hcontent : s.hasContent ↔ ∃ l ∈ s.leaves, blank l.text = false := by
      simp [Section.hasContent, SectionItem.anyContent_eq, Section.leaves, Leaf.hasContent]
    simp [Render.area, ← hcontent]

namespace Formatter

/-- Prompts that differ in what is not shown have the same request. Each area of a prompt is written
exactly when there is a leaf in its section that is not blank, and is then not blank itself. -/
theorem format_reshaped (f : Formatter) (model : String) (p : Prompt) :
    (∀ q, p.Reshaped q → f.format model p = f.format model q) ∧
      ∀ a, ((renderArea f.options p a).isSome ↔
          ∃ s, p.section? a = some s ∧ ∃ l ∈ s.leaves, blank l.text = false) ∧
        ∀ text, renderArea f.options p a = some text → blank text = false := by
  refine ⟨fun q h => ?_, fun a => ⟨renderArea_isSome f.options p a, fun _ => blank_renderArea⟩⟩
  have hareas : renderArea f.options p = renderArea f.options q := by
    funext a
    exact renderArea_congr f.options (h.sections a)
  rw [format, format, personaMessage, personaMessage, userText, userText, hareas,
    h.structuredOutput]

def roughPrompt : Prompt :=
  let untitled (items : List SectionItem) : SectionItem :=
    .branch ⟨none, .content, none, none, none⟩ items
  .ofInstructions ⟨⟨some "Rules", .context, none, none, some (Dict.ofList [("x", .null)])⟩, [
    .leaf (Leaf.ofText .trait " \n"), .branch ⟨some "Later", .instruction, none, none, none⟩
      [untitled [.leaf ⟨.content, "\t", none, none, some "Tab"⟩]],
    untitled [.leaf (Leaf.ofText .content "Be brief."), untitled []],
    .branch ⟨some "Sources", .content, none, none, none⟩
      [untitled [untitled [.leaf ⟨.context, " Cite them.", none, none, some "How"⟩]]]]⟩

def smoothPrompt : Prompt :=
  .ofInstructions ⟨⟨some "Rules", .instruction, none, none, none⟩, [
    .leaf (Leaf.ofText .instruction "Be brief."),
    .branch ⟨some "Sources", .instruction, none, none, none⟩
      [.leaf ⟨.instruction, " Cite them.", none, none, some "How"⟩]]⟩

theorem format_reshaped_rough : roughPrompt.Reshaped smoothPrompt ∧
    standard.format "m" roughPrompt = standard.format "m" smoothPrompt ∧
    renderArea .standard roughPrompt .instructions = some
      "<Rules>\nBe brief.\n\n## Sources\n\n### How\n\nCite them.\n</Rules>" ∧
    blank "<Rules>\nBe brief.\n\n## Sources\n\n### How\n\nCite them.\n</Rules>" = false := by
  have hsections : ∀ a, Option.Rel Section.Reshaped (roughPrompt.section? a)
      (smoothPrompt.section? a) := by
    intro a
    cases a with
    | instructions => exact .some (Section.reshaped_iff.mpr (by decide))
    | _ => exact .none
  have hreshaped : roughPrompt.Reshaped smoothPrompt := ⟨hsections, rfl⟩
  obtain ⟨hsame, hareas⟩ := format_reshaped standard "m" roughPrompt
  have hwritten : renderArea .standard roughPrompt .instructions = some
      "<Rules>\nBe brief.\n\n## Sources\n\n### How\n\nCite them.\n</Rules>" := by decide
  exact ⟨hreshaped, hsame smoothPrompt hreshaped, hwritten, (hareas .instructions).2 _ hwritten⟩

end Formatter
end PromptWeave
