import PromptWeave.Proofs.Markdown.Sections
import PromptWeave.Proofs.Markdown.Written

/-! Sections that are rendered and parsed.
Each heading of a rendered section is as deep as its section, so that reading the document puts every
text and every section back where it was. -/
namespace PromptWeave
namespace Markdown

/-! ### Plain sections -/

structure PlainLeaf (l : Leaf) : Prop where
  untitled : l.title = none
  lines : ∀ line ∈ Text.splitAt '\n' l.text.toList, RunningLine line

/-- A section as far as it does not concern what is inside its items. -/
structure PlainHead (title : Option String) (items : List SectionItem) : Prop where
  titled : ∃ t ∈ title, PlainTitle t.toList
  leavesFirst : LeavesFirst items

mutual
/-- A paragraph, or a section of such items that has content. -/
def Plain : SectionItem → Prop
  | .leaf l => PlainLeaf l
  | .branch head items =>
    PlainHead head.title items ∧ AllPlain items ∧ SectionItem.anyContent items = true
def AllPlain : List SectionItem → Prop
  | [] => True
  | i :: is => Plain i ∧ AllPlain is
end

/-- A section of which everything inside is plain; it may itself be empty. -/
structure PlainSection (s : Section) : Prop where
  head : PlainHead s.head.title s.items
  items : AllPlain s.items
  depth : s.depth ≤ 6

instance (l : Leaf) : Decidable (PlainLeaf l) :=
  decidable_of_iff (l.title = none ∧ ∀ line ∈ Text.splitAt '\n' l.text.toList, RunningLine line)
    ⟨fun ⟨h₁, h₂⟩ => ⟨h₁, h₂⟩, fun h => ⟨h.untitled, h.lines⟩⟩

instance (items : List SectionItem) : Decidable (LeavesFirst items) :=
  inferInstanceAs (Decidable (items.Pairwise _))

instance (title : Option String) (items : List SectionItem) : Decidable (PlainHead title items) :=
  decidable_of_iff ((∃ t ∈ title, PlainTitle t.toList) ∧ LeavesFirst items)
    ⟨fun ⟨h₁, h₂⟩ => ⟨h₁, h₂⟩, fun h => ⟨h.titled, h.leavesFirst⟩⟩

mutual
def decidablePlain : (i : SectionItem) → Decidable (Plain i)
  | .leaf l => inferInstanceAs (Decidable (PlainLeaf l))
  | .branch head items =>
    have := decidableAllPlain items
    inferInstanceAs (Decidable (PlainHead head.title items ∧ AllPlain items ∧ _ = true))
def decidableAllPlain : (items : List SectionItem) → Decidable (AllPlain items)
  | [] => inferInstanceAs (Decidable True)
  | i :: is =>
    have := decidablePlain i
    have := decidableAllPlain is
    inferInstanceAs (Decidable (Plain i ∧ AllPlain is))
end

instance : DecidablePred AllPlain := decidableAllPlain

instance (s : Section) : Decidable (PlainSection s) :=
  decidable_of_iff (PlainHead s.head.title s.items ∧ AllPlain s.items ∧ s.depth ≤ 6)
    ⟨fun ⟨h₁, h₂, h₃⟩ => ⟨h₁, h₂, h₃⟩, fun h => ⟨h.head, h.items, h.depth⟩⟩

mutual
/-- The titles and texts of an item in their places, all else as a parsed document has it. -/
def bare (kind : Kind) : SectionItem → SectionItem
  | .leaf l => .leaf (Leaf.ofText kind l.text)
  | .branch head items => .branch ⟨head.title, kind, none, none, none⟩ (bareAll kind items)
def bareAll (kind : Kind) : List SectionItem → List SectionItem
  | [] => []
  | i :: is => bare kind i :: bareAll kind is
end

def bareSection (kind : Kind) (s : Section) : Section :=
  ⟨⟨s.head.title, kind, none, none, none⟩, bareAll kind s.items⟩

/-! ### Blocks of a plain section -/

def titleOf (head : SectionHead) : List Char := (head.title.getD "").toList

mutual
def blocksOf (level : Nat) : SectionItem → List Block
  | .leaf l => [.paragraph (Text.splitAt '\n' l.text.toList)]
  | .branch head items => .heading level (titleOf head) :: blocksOfAll (level + 1) items
def blocksOfAll (level : Nat) : List SectionItem → List Block
  | [] => []
  | i :: is => blocksOf level i ++ blocksOfAll level is
end

mutual
def outlineOf (level : Nat) : SectionItem → Outline
  | .leaf l => .text l.text.toList
  | .branch head items => .headed level (titleOf head) (outlineOfAll (level + 1) items)
def outlineOfAll (level : Nat) : List SectionItem → List Outline
  | [] => []
  | i :: is => outlineOf level i :: outlineOfAll level is
end

theorem outlineOfAll_eq (level : Nat) (items : List SectionItem) :
    outlineOfAll level items = items.map (outlineOf level) := by
  induction items with
  | nil => rfl
  | cons i is ih => rw [outlineOfAll, ih, List.map_cons]

theorem PlainHead.title {head : SectionHead} {items : List SectionItem}
    (h : PlainHead head.title items) :
    head.title = some (String.ofList (titleOf head)) ∧ PlainTitle (titleOf head) := by
  obtain ⟨t, ht, hplain⟩ := h.titled
  have htitle : titleOf head = t.toList := by rw [titleOf, ht]; rfl
  rw [htitle, String.ofList_toList]
  exact ⟨ht, hplain⟩

theorem PlainLeaf.written {l : Leaf} (h : PlainLeaf l) (level : Nat) :
    List.Forall₂ Written (blocksOf level (.leaf l)) (Render.chunks level (.leaf l)) := by
  have hne := Text.splitAt_ne_nil '\n' l.text.toList
  have hfirm := Text.firm_unlines hne fun line hline => (h.lines line hline).firm
  rw [Text.unlines_splitAt] at hfirm
  have hwritten : Written (.paragraph (Text.splitAt '\n' l.text.toList)) l.text.toList := by
    have hlines := Written.paragraph hne fun line hline =>
      ⟨h.lines line hline, Text.notMem_splitAt hline⟩
    rwa [Text.unlines_splitAt] at hlines
  have hchunks : Render.chunks level (.leaf l) = [l.text.toList] := by
    simp [Render.chunks, Render.hasContent_eq, hfirm.trim, hfirm.ne_nil, h.untitled,
      Render.titleChunk]
  rw [hchunks, blocksOf]
  exact .cons hwritten .nil

/-- What is rendered of plain items are their blocks, as long as there are hashes for the depth. -/
theorem written_blocksOfAll (items : List SectionItem) : ∀ level, AllPlain items → 1 ≤ level →
    SectionItem.depthItems items + level ≤ 7 →
      List.Forall₂ Written (blocksOfAll level items) (Render.chunksAll level items) := by
  induction items using SectionItem.items_induction with
  | nil => exact fun _ _ _ _ => .nil
  | leaf l is ih =>
    intro level h hlevel hdepth
    obtain ⟨hl, his⟩ : PlainLeaf l ∧ AllPlain is := h
    rw [SectionItem.depthItems, SectionItem.depth] at hdepth
    exact List.rel_append (hl.written level) (ih level his hlevel (by omega))
  | branch head inner is ihinner ih =>
    intro level h hlevel hdepth
    obtain ⟨⟨hhead, hinner, hcontent⟩, his⟩ :
      (PlainHead head.title inner ∧ AllPlain inner ∧ _) ∧ AllPlain is := h
    rw [SectionItem.depthItems, SectionItem.depth] at hdepth
    obtain ⟨htitle, hplain⟩ := hhead.title
    have hin := ihinner (level + 1) hinner (by omega) (by omega)
    have hchunks : Render.chunks level (.branch head inner) =
        Render.heading level (titleOf head) :: Render.chunksAll (level + 1) inner := by
      rw [Render.chunks, if_pos hcontent, htitle]
      simp [Render.titleChunk, Render.inside]
    rw [blocksOfAll, Render.chunksAll, hchunks, blocksOf]
    have hheading : Written (.heading level (titleOf head)) _ :=
      .heading ⟨hlevel, by omega⟩ hplain
    exact List.rel_append (.cons hheading hin) (ih level his hlevel (by omega))

/-! ### Their outline -/

theorem under_outlineOf {level : Nat} {i : SectionItem} {depth : Nat} (h : depth < level) :
    Outline.under depth (outlineOf level i) = true := by
  cases i with
  | leaf l => rfl
  | branch head items => simpa [outlineOf, Outline.under] using h

/-- A heading takes in what is one deeper and nothing behind that. -/
theorem place_outlineOfAll (level : Nat) (title : List Char) (inner : List SectionItem)
    {es : List Outline} (hes : ∀ e ∈ es, Outline.under level e = false) :
    Outline.place (outlineOfAll (level + 1) inner ++ es) (.heading level title) =
      .headed level title (outlineOfAll (level + 1) inner) :: es := by
  have hinner : ∀ e ∈ outlineOfAll (level + 1) inner, Outline.under level e = true := by
    intro e he
    rw [outlineOfAll_eq] at he
    obtain ⟨i, -, rfl⟩ := List.mem_map.mp he
    exact under_outlineOf (Nat.lt_succ_self level)
  have hbehind : es.takeWhile (Outline.under level) = [] ∧
      es.dropWhile (Outline.under level) = es := by
    cases es with
    | nil => exact ⟨rfl, rfl⟩
    | cons e es => simp [hes e List.mem_cons_self]
  rw [Outline.place, List.takeWhile_append_of_pos hinner, List.dropWhile_append_of_pos hinner,
    hbehind.1, hbehind.2, List.append_nil]

/-- Where no heading behind them is deeper, the blocks of items are read as these items. -/
theorem ofBlocks_blocksOfAll (items : List SectionItem) : ∀ level, AllPlain items →
    LeavesFirst items → ∀ bs, (∀ e ∈ Outline.ofBlocks bs, Outline.under level e = false) →
      Outline.ofBlocks (blocksOfAll level items ++ bs) =
        outlineOfAll level items ++ Outline.ofBlocks bs := by
  induction items using SectionItem.items_induction with
  | nil => exact fun _ _ _ _ _ => rfl
  | leaf l is ih =>
    intro level h hfirst bs hbs
    obtain ⟨-, his⟩ : PlainLeaf l ∧ AllPlain is := h
    rw [blocksOfAll, blocksOf, List.append_assoc, List.singleton_append, Outline.ofBlocks_cons,
      ih level his (List.pairwise_cons.mp hfirst).2 bs hbs, Outline.place, Text.unlines_splitAt]
    rfl
  | branch head inner is ihinner ih =>
    intro level h hfirst bs hbs
    obtain ⟨⟨hhead, hinner, -⟩, his⟩ :
      (PlainHead head.title inner ∧ AllPlain inner ∧ _) ∧ AllPlain is := h
    obtain ⟨hbranches, hrest⟩ := List.pairwise_cons.mp hfirst
    have hbehind := ih level his hrest bs hbs
    -- no leaf stands behind a section, so that the heading takes in nothing of what follows
    have hbeside : ∀ e ∈ Outline.ofBlocks (blocksOfAll level is ++ bs),
        Outline.under level e = false := by
      rw [hbehind, outlineOfAll_eq]
      intro e he
      rcases List.mem_append.mp he with he | he
      · obtain ⟨i, hi, rfl⟩ := List.mem_map.mp he
        cases i with
        | leaf l => cases hbranches _ hi rfl
        | branch head items => simp [outlineOf, Outline.under]
      · exact hbs e he
    have hdeeper : ∀ e ∈ Outline.ofBlocks (blocksOfAll level is ++ bs),
        Outline.under (level + 1) e = false := by
      intro e he
      have hnot := hbeside e he
      cases e with
      | text t => cases hnot
      | headed depth title inner =>
        simp only [Outline.under, decide_eq_false_iff_not] at hnot ⊢
        omega
    rw [blocksOfAll, blocksOf, List.append_assoc, List.cons_append, Outline.ofBlocks_cons,
      ihinner (level + 1) hinner hhead.leavesFirst _ hdeeper, place_outlineOfAll level _ _ hbeside,
      hbehind]
    rfl

theorem toItems_outlineOfAll (kind : Kind) (items : List SectionItem) :
    ∀ level, AllPlain items →
      toItems (.plain kind) (outlineOfAll level items) = bareAll kind items := by
  induction items using SectionItem.items_induction with
  | nil => exact fun _ _ => rfl
  | leaf l is ih =>
    intro level h
    rw [outlineOfAll, outlineOf, toItems, toItem_text, ih level h.2, String.ofList_toList]
    rfl
  | branch head inner is ihinner ih =>
    intro level h
    obtain ⟨⟨hhead, hinner, -⟩, his⟩ :
      (PlainHead head.title inner ∧ AllPlain inner ∧ _) ∧ AllPlain is := h
    rw [outlineOfAll, outlineOf, toItems, toItem_headed, ihinner _ hinner, ih level his,
      ← hhead.title.1]
    rfl

/-- A plain section that is rendered in the markdown style and parsed again has all its titles and
texts where they were. -/
theorem parse_renderSection (kind : Kind) (o : FormatOptions) (s : Section)
    (ho : o.sectionStyle = .markdown) (hs : PlainSection s) :
    parse (.plain kind) (renderSection o s) = bareSection kind s := by
  obtain ⟨head, items⟩ := s
  obtain ⟨hhead, hitems, hdepth⟩ := hs
  have hlevels : SectionItem.depthItems items + 1 ≤ 6 := hdepth
  obtain ⟨htitle, hplain⟩ := hhead.title
  have hrendered : Render.sectionAt o 1 ⟨head, items⟩ =
      Render.joinParts (Render.heading 1 (titleOf head) :: Render.chunksAll 2 items) := by
    rw [Render.sectionAt_eq ho, htitle]
    simp [Render.titleChunk, Render.inside]
  have hwritten := written_blocksOfAll items 2 hitems (by omega) (by omega)
  have hroot : Written (.heading 1 (titleOf head)) (Render.heading 1 (titleOf head)) :=
    .heading ⟨by omega, by omega⟩ hplain
  have hblocks := blocks_joinParts (.cons hroot hwritten)
  have hinner := ofBlocks_blocksOfAll items 2 hitems hhead.leavesFirst [] (by simp)
  have houtline : outline (Render.sectionAt o 1 ⟨head, items⟩) =
      [.headed 1 (titleOf head) (outlineOfAll 2 items)] := by
    rw [List.append_nil] at hinner
    rw [hrendered, outline, hblocks, Outline.ofBlocks_cons, hinner]
    exact place_outlineOfAll 1 _ items (by simp)
  rw [parse, renderSection, String.toList_ofList, houtline, toItems, toItem_headed,
    toItems_outlineOfAll kind items 2 hitems, ← htitle]
  rfl

def guide : Section :=
  let titled (title : String) (items : List SectionItem) : SectionItem :=
    .branch ⟨some title, .context, none, none, none⟩ items
  let text (t : String) : SectionItem := .leaf (Leaf.ofText .context t)
  ⟨⟨some "Guide", .context, none, none, none⟩, [
    text "Read this.\n#first of all", text "-5 degrees",
    titled "C# or C" [titled "Deep" [text "1.5 times"]],
    titled "Last" [text "~~ done"]]⟩

theorem parse_renderSection_guide : PlainSection guide ∧
    parse (.plain .instruction) (renderSection .standard guide) = bareSection .instruction guide := by
  have hguide : PlainSection guide := by decide
  exact ⟨hguide, parse_renderSection .instruction .standard guide rfl hguide⟩

end Markdown
end PromptWeave
