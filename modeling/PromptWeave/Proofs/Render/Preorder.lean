import PromptWeave.Proofs.Render.Chunks

/-! Rendered sections as a walk through the tree.
The walk comes to a section before it comes to what is inside. In the markdown style each stop adds
its heading and its text to the end of what is written, and how deep a heading is depends on nothing
but the titled sections around it. -/
namespace PromptWeave
namespace Render

/-! ### The walk -/

/-- A stop on the way through a section: the item, and the sections around it. -/
structure Visit where
  around : List SectionHead
  item : SectionItem

mutual
def visits (around : List SectionHead) : SectionItem → List Visit
  | .leaf l => [⟨around, .leaf l⟩]
  | .branch head items => ⟨around, .branch head items⟩ :: visitsAll (head :: around) items
def visitsAll (around : List SectionHead) : List SectionItem → List Visit
  | [] => []
  | i :: is => visits around i ++ visitsAll around is
end

inductive Shown
  | heading (level : Nat) (title : String)
  | text (l : Leaf)
deriving DecidableEq

namespace Shown

/-- A heading has one to six hashes, and a text no blanks at its ends. -/
def chars : Shown → List Char
  | .heading level title => List.replicate (max 1 (min level 6)) '#' ++ ' ' :: title.toList
  | .text l => Text.trim l.text.toList

def leaf? : Shown → Option Leaf
  | .heading _ _ => none
  | .text l => some l

def ofTitle (start : Nat) (around : List SectionHead) (title : Option String) : List Shown :=
  (title.map (.heading (start + around.countP (·.title.isSome)))).toList

theorem chars_ofTitle (start : Nat) (around : List SectionHead) (title : Option String) :
    (ofTitle start around title).map chars =
      titleChunk (start + around.countP (·.title.isSome)) title := by
  cases title <;> rfl

theorem leaf?_ofTitle (start : Nat) (around : List SectionHead) (title : Option String) :
    (ofTitle start around title).filterMap leaf? = [] := by
  cases title <;> rfl

end Shown

/-- A leaf that is not blank adds its title and its text, and a section its title if there is such a
leaf in it. -/
def Visit.shown (start : Nat) : Visit → List Shown
  | ⟨around, .leaf l⟩ => if l.hasContent then Shown.ofTitle start around l.title ++ [.text l] else []
  | ⟨around, .branch head items⟩ =>
    if (SectionItem.leavesAll items).any Leaf.hasContent then Shown.ofTitle start around head.title
    else []

/-- What the walk through a section adds, whose own title is shown in any case. -/
def shown (start : Nat) (s : Section) : List Shown :=
  Shown.ofTitle start [] s.head.title ++ (visitsAll [s.head] s.items).flatMap (Visit.shown start)

/-! ### What is written on the way -/

theorem inside_level (start : Nat) (around : List SectionHead) (head : SectionHead) :
    inside head.title (start + around.countP (·.title.isSome)) =
      start + (head :: around).countP (·.title.isSome) := by
  rw [List.countP_cons, inside]
  split <;> rfl

theorem chars_visitsAll (start : Nat) (items : List SectionItem) : ∀ around,
    ((visitsAll around items).flatMap (Visit.shown start)).map Shown.chars =
      chunksAll (start + around.countP (·.title.isSome)) items := by
  induction items using SectionItem.items_induction with
  | nil => exact fun _ => rfl
  | leaf l is ih =>
    intro around
    rw [visitsAll, visits, List.flatMap_append, List.map_append, ih, chunksAll, chunks,
      List.flatMap_singleton, Visit.shown]
    cases l.hasContent with
    | false => rfl
    | true => simp [Shown.chars_ofTitle, Shown.chars]
  | branch head inner is ihinner ih =>
    intro around
    rw [visitsAll, visits, List.cons_append, List.flatMap_cons, List.flatMap_append, List.map_append,
      List.map_append, ihinner, ih, chunksAll, chunks, Visit.shown, ← SectionItem.anyContent_eq,
      inside_level]
    cases hinner : SectionItem.anyContent inner with
    | false => simp [(chunksAll_eq_nil inner _).mpr hinner]
    | true => simp [Shown.chars_ofTitle]

theorem leaf?_visitsAll (start : Nat) (items : List SectionItem) : ∀ around,
    ((visitsAll around items).flatMap (Visit.shown start)).filterMap Shown.leaf? =
      (SectionItem.leavesAll items).filter Leaf.hasContent := by
  induction items using SectionItem.items_induction with
  | nil => exact fun _ => rfl
  | leaf l is ih =>
    intro around
    rw [visitsAll, visits, List.flatMap_append, List.filterMap_append, ih, SectionItem.leavesAll,
      SectionItem.leaves, List.filter_append, List.flatMap_singleton, Visit.shown]
    cases hl : l.hasContent with
    | false => simp [hl]
    | true => simp [hl, Shown.leaf?_ofTitle, Shown.leaf?]
  | branch head inner is ihinner ih =>
    intro around
    have hhead : (Visit.shown start ⟨around, .branch head inner⟩).filterMap Shown.leaf? = [] := by
      rw [Visit.shown]
      split
      · exact Shown.leaf?_ofTitle ..
      · rfl
    rw [visitsAll, visits, List.cons_append, List.flatMap_cons, List.flatMap_append,
      List.filterMap_append, List.filterMap_append, hhead, ihinner, ih, SectionItem.leavesAll,
      SectionItem.leaves, List.filter_append]
    rfl

/-- In the markdown style a section is written as what the walk through it adds, with a blank line
between neighbours. Each leaf that is not blank adds its text once, in the order of the tree. -/
theorem sectionAt_preorder {o : FormatOptions} (ho : o.sectionStyle = .markdown) (start : Nat)
    (s : Section) :
    sectionAt o start s = List.intercalate ['\n', '\n'] ((shown start s).map Shown.chars) ∧
      (shown start s).filterMap Shown.leaf? = s.leaves.filter Leaf.hasContent := by
  have hitems := chars_visitsAll start s.items [s.head]
  rw [← inside_level start [] s.head] at hitems
  constructor
  · rw [sectionAt_eq ho, shown, List.map_append, Shown.chars_ofTitle, hitems]
    rfl
  · rw [shown, List.filterMap_append, Shown.leaf?_ofTitle, leaf?_visitsAll]
    rfl

def manual : Section :=
  let branch (title : Option String) (items : List SectionItem) : SectionItem :=
    .branch ⟨title, .content, none, none, none⟩ items
  let leaf (title : Option String) (text : String) : SectionItem :=
    .leaf ⟨.content, text, none, none, title⟩
  ⟨⟨some "Manual", .content, none, none, none⟩, [
    branch none [leaf (some "First") " Plug it in. ", leaf (some "Blank") "\n"],
    branch (some "Empty") [branch (some "Still") [leaf none " "]],
    branch (some "Parts") [branch none [branch (some "Cord") [leaf none "Black.\n"]]],
    leaf none "The end."]⟩

theorem sectionAt_preorder_manual : FormatOptions.standard.sectionStyle = .markdown ∧
    sectionAt .standard 5 manual = ("##### Manual\n\n###### First\n\nPlug it in.\n\n" ++
      "###### Parts\n\n###### Cord\n\nBlack.\n\nThe end.").toList ∧
    (shown 5 manual).filterMap Shown.leaf? = manual.leaves.filter Leaf.hasContent := by
  obtain ⟨hwritten, hleaves⟩ := sectionAt_preorder (o := .standard) rfl 5 manual
  exact ⟨rfl, hwritten.trans (by decide), hleaves⟩

end Render
end PromptWeave
