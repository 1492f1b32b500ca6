import PromptWeave.Proofs.Markdown.Listing

/-! The sections of a parsed document.
The sections in the list of a document are its headings in order. Each stands in the section of the
last heading before it that is less deep, holds the texts between itself and the next heading, and
has them in front of its own sections. -/
namespace PromptWeave
namespace Markdown

/-! ### Chapters -/

structure Chapter where
  depth : Nat
  title : List Char
  lines : List (List Char)

/-- The lines in front of the first heading, and the headings with the lines behind each. -/
def chapters : List Part → List (List Char) × List Chapter
  | [] => ([], [])
  | .heading depth title :: rest =>
    ([], ⟨depth, title, (chapters rest).1⟩ :: (chapters rest).2)
  | .text line :: rest => (line :: (chapters rest).1, (chapters rest).2)

theorem chapters_text (ls : List (List Char)) (rest : List Part) :
    chapters (ls.map .text ++ rest) = (ls ++ (chapters rest).1, (chapters rest).2) := by
  induction ls with
  | nil => rfl
  | cons l ls ih => rw [List.map_cons, List.cons_append, chapters, ih]; rfl

theorem heading_of_chapters {ps : List Part} {c : Chapter} (h : c ∈ (chapters ps).2) :
    Part.heading c.depth c.title ∈ ps := by
  induction ps with
  | nil => cases h
  | cons p ps ih =>
    cases p with
    | heading depth title =>
      rcases List.mem_cons.mp h with rfl | h
      · exact List.mem_cons_self
      · exact List.mem_cons_of_mem _ (ih h)
    | text line => exact List.mem_cons_of_mem _ (ih h)

/-- Where a heading belongs: under the last one in front of it that is less deep, or under none when
no other is. -/
inductive BelongsTo (depths : List Nat) (i depth : Nat) : Option Nat → Prop
  | none (h : ∀ k < i, ∀ d, depths[k]? = some d → depth ≤ d) : BelongsTo depths i depth none
  | under {j d : Nat} (hj : j < i) (hd : depths[j]? = some d) (hless : d < depth)
      (hlast : ∀ k, j < k → k < i → ∀ d, depths[k]? = some d → depth ≤ d) :
      BelongsTo depths i depth (some j)

theorem belongsTo_behind {depths : List Nat} {i first : Nat} {h : Headed}
    (hbelongs : BelongsTo depths i h.depth h.parent) :
    BelongsTo (first :: depths) (i + 1) h.depth (h.behind first).parent := by
  obtain ⟨parent, depth, title, inner⟩ := h
  -- all places move on by one, and the new heading takes the first
  have hlater : ∀ {j}, (∀ k, j ≤ k → k < i → ∀ d, depths[k]? = some d → depth ≤ d) →
      ∀ k, j < k → k < i + 1 → ∀ d, (first :: depths)[k]? = some d → depth ≤ d := by
    intro j h k hjk hk d hd
    obtain ⟨k, rfl⟩ : ∃ n, k = n + 1 := ⟨k - 1, by omega⟩
    exact h k (by omega) (by omega) d (by simpa using hd)
  cases hbelongs with
  | none h =>
    by_cases hless : first < depth
    · simp only [Headed.behind, hless, if_true]
      exact .under (by omega) rfl hless (hlater fun k _ => h k)
    · simp only [Headed.behind, hless, if_false]
      refine .none fun k hk d hd => ?_
      cases k with
      | zero =>
        cases hd
        omega
      | succ k => exact h k (by omega) d (by simpa using hd)
  | @under j d hj hd hless hlast =>
    exact .under (by omega) (by simpa using hd) hless (hlater fun k hk => hlast k (by omega))

/-! ### The outline of a document -/

def Outline.lines : Outline → List (List Char)
  | .text t => pieces t
  | .headed _ _ _ => []

def Headed.chapter (h : Headed) : Chapter := ⟨h.depth, h.title, h.inner.flatMap Outline.lines⟩

namespace Outline

/-- Any other block than a heading is put in front as a text. -/
theorem place_cases (es : List Outline) (b : Block) : (∃ depth title, b = .heading depth title) ∨
    ∃ t, place es b = .text t :: es ∧ b.parts = (pieces t).map .text := by
  cases b with
  | heading depth title => exact Or.inl ⟨depth, title, rfl⟩
  | _ => exact Or.inr ⟨_, rfl, rfl⟩

theorem lines_dropWhile {es : List Outline} (h : Ordered es) (depth : Nat) :
    (es.dropWhile (under depth)).flatMap lines = [] := by
  refine List.flatMap_eq_nil_iff.mpr fun e he => ?_
  have hnot := not_under_of_dropWhile h depth e he
  cases e with
  | text t => cases hnot
  | headed => rfl

theorem lines_takeWhile {es : List Outline} (h : Ordered es) (depth : Nat) :
    (es.takeWhile (under depth)).flatMap lines = es.flatMap lines := by
  have hsplit := congrArg (List.flatMap lines)
    (List.takeWhile_append_dropWhile (p := under depth) (l := es))
  rw [List.flatMap_append, lines_dropWhile h, List.append_nil] at hsplit
  exact hsplit

/-- The headings of an outline and the lines under each are those of the blocks. -/
theorem chapters_ofBlocks (bs : List Block) : chapters (bs.flatMap Block.parts) =
    ((ofBlocks bs).flatMap lines, (headings (ofBlocks bs)).map Headed.chapter) := by
  induction bs with
  | nil => rfl
  | cons b bs ih =>
    rw [List.flatMap_cons, ofBlocks_cons]
    rcases place_cases (ofBlocks bs) b with ⟨depth, title, rfl⟩ | ⟨t, hplace, hparts⟩
    · have hordered := ordered_ofBlocks bs
      have hnone : (place (ofBlocks bs) (.heading depth title)).flatMap lines = [] := by
        rw [place, List.flatMap_cons, lines_dropWhile hordered]
        rfl
      rw [headings_place hordered, hnone, Block.parts, List.cons_append, List.nil_append, chapters,
        ih, List.map_cons, List.map_map]
      simp only [Headed.chapter, lines_takeWhile hordered]
      rfl
    · rw [hplace, hparts, chapters_text, ih, headings_text, List.flatMap_cons]
      rfl

theorem belongsTo_ofBlocks (bs : List Block) : ∀ i h, (headings (ofBlocks bs))[i]? = some h →
    BelongsTo ((headings (ofBlocks bs)).map Headed.depth) i h.depth h.parent := by
  induction bs with
  | nil =>
    intro i h hi
    cases hi
  | cons b bs ih =>
    rw [ofBlocks_cons]
    rcases place_cases (ofBlocks bs) b with ⟨depth, title, rfl⟩ | ⟨t, hplace, -⟩
    · have hdepths : ((headings (ofBlocks bs)).map (Headed.behind depth)).map Headed.depth =
          (headings (ofBlocks bs)).map Headed.depth := by
        rw [List.map_map]
        rfl
      rw [headings_place (ordered_ofBlocks bs), List.map_cons, hdepths]
      intro i h hi
      cases i with
      | zero =>
        cases hi
        exact .none fun k hk => absurd hk (Nat.not_lt_zero k)
      | succ i =>
        rw [List.getElem?_cons_succ, List.getElem?_map, Option.map_eq_some_iff] at hi
        obtain ⟨g, hg, rfl⟩ := hi
        exact belongsTo_behind (ih i g hg)
    · rw [hplace, headings_text]
      exact ih

example : (headings (ofBlocks [.heading 1 ['A'], .heading 3 ['C'], .paragraph [['x']],
    .heading 2 ['B']])).map (fun h => (h.parent, h.title)) =
    [(none, ['A']), (some 0, ['C']), (some 0, ['B'])] := by decide

/-- Entries beside one another: texts come first, no heading is deeper than the one before it, and no
text is blank. -/
structure Tidy (es : List Outline) : Prop where
  ordered : Ordered es
  filled : ∀ t, .text t ∈ es → pieces t ≠ []

def TidyUnder (depth : Nat) (inner : List Outline) : Prop :=
  Tidy inner ∧ ∀ e ∈ inner, under depth e = true

theorem tidy_place {es : List Outline} {b : Block} (hb : b.parts ≠ [])
    (h : Tidy es ∧ Throughout TidyUnder es) :
    Tidy (place es b) ∧ Throughout TidyUnder (place es b) := by
  obtain ⟨htidy, hinner⟩ := h
  have hordered := ordered_place htidy.ordered b
  rcases place_cases es b with ⟨depth, title, rfl⟩ | ⟨t, hplace, hparts⟩
  · refine ⟨⟨hordered, fun t ht => ?_⟩, ?_⟩
    · rcases List.mem_cons.mp ht with he | ht
      · cases he
      · exact htidy.filled t ((List.dropWhile_sublist _).mem ht)
    · have htaken : TidyUnder depth (es.takeWhile (under depth)) :=
        ⟨⟨htidy.ordered.sublist (List.takeWhile_sublist _),
          fun t ht => htidy.filled t ((List.takeWhile_sublist _).mem ht)⟩,
          fun _ => List.mem_takeWhile_imp⟩
      rw [Throughout, headings_place htidy.ordered, List.forall_mem_cons, List.forall_mem_map]
      exact ⟨htaken, hinner⟩
  · rw [hplace] at hordered ⊢
    refine ⟨⟨hordered, fun u hu => ?_⟩, ?_⟩
    · rcases List.mem_cons.mp hu with he | hu
      · cases he
        simpa [hparts] using hb
      · exact htidy.filled u hu
    · exact throughout_text.mpr hinner

theorem tidy_ofBlocks {bs : List Block} (h : ∀ b ∈ bs, b.parts ≠ []) :
    Tidy (ofBlocks bs) ∧ Throughout TidyUnder (ofBlocks bs) := by
  induction bs with
  | nil => exact ⟨⟨.nil, by simp⟩, by simp [Throughout, headings, listingAll]⟩
  | cons b bs ih =>
    obtain ⟨hb, hbs⟩ := List.forall_mem_cons.mp h
    exact tidy_place hb (ih hbs)

end Outline

/-! ### The parsed document -/

variable {kind : Kind}

def LeavesFirst (items : List SectionItem) : Prop :=
  items.Pairwise fun a b => b.leaf?.isSome → a.leaf?.isSome

theorem toItems_eq_map (es : List Outline) :
    toItems (.plain kind) es = es.map (toItem (.plain kind)) := by
  induction es with
  | nil => rfl
  | cons e es ih => rw [toItems, ih, List.map_cons]

theorem toItem_text (t : List Char) :
    toItem (.plain kind) (.text t) = .leaf (Leaf.ofText kind (String.ofList t)) := by
  rw [toItem, Options.plain, substitute_empty]

def Headed.listed (kind : Kind) (h : Headed) : Listed :=
  ⟨h.parent, ⟨⟨some (String.ofList h.title), kind, none, none, none⟩,
    toItems (.plain kind) h.inner⟩⟩

theorem toItem_headed (depth : Nat) (title : List Char) (inner : List Outline) :
    toItem (.plain kind) (.headed depth title inner) =
      .branch ⟨some (String.ofList title), kind, none, none, none⟩ (toItems (.plain kind) inner) := by
  rw [toItem, Options.plain, substitute_empty]

theorem listing_toItems (es : List Outline) : ∀ (parent : Option Nat) (next : Nat),
    SectionItem.listingAll parent next (toItems (.plain kind) es) =
      (Outline.listingAll parent next es).map (Headed.listed kind) := by
  induction es using outline_induction with
  | nil => exact fun _ _ => rfl
  | text t es ih =>
    intro parent next
    rw [toItems, toItem_text, Outline.listingAll_text, ← ih, SectionItem.listingAll,
      SectionItem.listing]
    rfl
  | headed depth title inner es ihinner ih =>
    intro parent next
    rw [toItems, toItem_headed, SectionItem.listingAll, SectionItem.listing, ihinner, ih,
      Outline.listingAll, Outline.listing]
    simp only [List.map_append, List.map_cons, List.length_cons, List.length_map]
    rfl

theorem leavesFirst_toItems {es : List Outline} (h : Outline.Ordered es) :
    LeavesFirst (toItems (.plain kind) es) := by
  rw [toItems_eq_map, LeavesFirst, List.pairwise_map]
  refine h.imp ?_
  intro a b hab hb
  cases a with
  | text t =>
    rw [toItem_text]
    rfl
  | headed depth title inner =>
    cases b with
    | text t =>
      have hunder := hab depth rfl
      simp [Outline.under] at hunder
    | headed =>
      rw [toItem_headed] at hb
      cases hb

def Outline.text? : Outline → Option String
  | .text t => some (String.ofList t)
  | .headed _ _ _ => none

theorem texts_toItems (head : SectionHead) (es : List Outline) :
    Section.texts ⟨head, toItems (.plain kind) es⟩ = es.filterMap Outline.text? := by
  rw [Section.texts, toItems_eq_map, List.filterMap_map, List.map_filterMap]
  congr 1
  funext e
  cases e with
  | text t =>
    rw [Function.comp_apply, toItem_text]
    rfl
  | headed depth title inner =>
    rw [Function.comp_apply, toItem_headed]
    rfl

theorem piecesOf_texts (es : List Outline) :
    piecesOf (es.filterMap Outline.text?) = es.flatMap Outline.lines := by
  induction es with
  | nil => rfl
  | cons e es ih =>
    cases e with
    | text t =>
      have htext : (Outline.text t).text? = some (String.ofList t) := rfl
      rw [List.filterMap_cons_some htext, piecesOf, List.flatMap_cons, String.toList_ofList,
        ← piecesOf, ih, List.flatMap_cons, Outline.lines]
    | headed depth title inner =>
      rw [List.filterMap_cons_none rfl, ih, List.flatMap_cons, Outline.lines, List.nil_append]

/-- Sections nest no deeper than the depths of headings allow. -/
theorem depthItems_toItems (es : List Outline) : ∀ d ≤ 6, (∀ e ∈ es, e.under d = true) →
    Outline.Throughout (fun depth inner => depth ≤ 6 ∧ Outline.TidyUnder depth inner) es →
      SectionItem.depthItems (toItems (.plain kind) es) + d ≤ 6 := by
  induction es using outline_induction with
  | nil =>
    intro d hd _ _
    rw [toItems, SectionItem.depthItems]
    omega
  | text t es ih =>
    intro d hd hunder h
    have hrest := ih d hd (fun e he => hunder e (List.mem_cons_of_mem _ he))
      (Outline.throughout_text.mp h)
    rw [toItems, toItem_text, SectionItem.depthItems, SectionItem.depth]
    omega
  | headed depth title inner es ihinner ih =>
    intro d hd hunder h
    obtain ⟨⟨hdepth, htidy⟩, hinner, hes⟩ := Outline.throughout_headed.mp h
    have hdeeper : d < depth := by simpa [Outline.under] using hunder _ List.mem_cons_self
    have hin := ihinner depth hdepth htidy.2 hinner
    have hrest := ih d hd (fun e he => hunder e (List.mem_cons_of_mem _ he)) hes
    rw [toItems, toItem_headed, SectionItem.depthItems, SectionItem.depth]
    omega

/-- The section around a parsed document, which one of a single heading is taken out of. -/
def implicitRoot (s : Section) : Section :=
  if s.head.title.isSome then { Section.empty s.head.kind with items := [s.toItem] } else s

theorem implicitRoot_parse (kind : Kind) (document : String) :
    implicitRoot (parse (.plain kind) document) =
      { Section.empty kind with items := toItems (.plain kind) (outline document.toList) } := by
  rw [parse, unwrap]
  split
  next head items hitems =>
    have hhead : head.title.isSome ∧ head.kind = kind := by
      cases houtline : outline document.toList with
      | nil =>
        rw [houtline] at hitems
        cases hitems
      | cons e es =>
        simp only [houtline, toItems, List.cons.injEq] at hitems
        cases e with
        | text t =>
          rw [toItem_text] at hitems
          cases hitems.1
        | headed depth title inner =>
          rw [toItem_headed] at hitems
          cases hitems.1
          exact ⟨rfl, rfl⟩
    obtain ⟨htitle, hkind⟩ := hhead
    rw [implicitRoot, if_pos htitle, hkind]
    exact congrArg (Section.mk _) hitems.symm
  next => rfl

/-- The section has the lines in its leaves, none of which is blank or behind a section in it. -/
structure Holds (s : Section) (lines : List (List Char)) : Prop where
  lines : piecesOf s.texts = lines
  filled : ∀ t ∈ s.texts, pieces t.toList ≠ []
  leavesFirst : LeavesFirst s.items

theorem holds_toItems (head : SectionHead) {es : List Outline} (h : Outline.Tidy es) :
    Holds ⟨head, toItems (.plain kind) es⟩ (es.flatMap Outline.lines) where
  lines := by rw [texts_toItems, piecesOf_texts]
  filled := by
    rw [texts_toItems]
    intro t ht
    obtain ⟨e, he, htext⟩ := List.mem_filterMap.mp ht
    cases e with
    | text cs =>
      cases htext
      rw [String.toList_ofList]
      exact h.filled cs he
    | headed => cases htext
  leavesFirst := leavesFirst_toItems h.ordered

/-- The sections of a parsed document are its headings, each under the last one before it that is
less deep, and each with the lines in front of the next heading in its own leaves. Leaves come before
sections, and no more than six sections are inside one another. -/
theorem sections_parse (kind : Kind) (document : String) :
    let root := implicitRoot (parse (.plain kind) document)
    let found := SectionItem.listingAll none 0 root.items
    let expected := chapters ((fenced none (Text.lines document.toList)).flatMap partsOf)
    root.head.title = none ∧ Holds root expected.1 ∧ found.length = expected.2.length ∧
      (∀ i l c, found[i]? = some l → expected.2[i]? = some c →
        l.inside.head.title = some (String.ofList c.title) ∧
        BelongsTo (expected.2.map Chapter.depth) i c.depth l.parent ∧ Holds l.inside c.lines) ∧
      SectionItem.depthItems root.items ≤ 6 := by
  intro root found expected
  obtain ⟨htidy, hunder⟩ := Outline.tidy_ofBlocks (filled_blocks document.toList)
  have hroot : root = { Section.empty kind with
      items := toItems (.plain kind) (outline document.toList) } := implicitRoot_parse kind document
  have hfound : found =
      (Outline.headings (outline document.toList)).map (Headed.listed kind) := by
    change SectionItem.listingAll none 0 root.items = _
    rw [hroot]
    exact listing_toItems _ none 0
  have hexpected : expected = ((outline document.toList).flatMap Outline.lines,
      (Outline.headings (outline document.toList)).map Headed.chapter) := by
    rw [outline, ← Outline.chapters_ofBlocks, parts_blocks]
  have hdepths : ∀ h ∈ Outline.headings (outline document.toList), 1 ≤ h.depth ∧ h.depth ≤ 6 := by
    intro h hmem
    have hchapter : h.chapter ∈ expected.2 := by
      rw [hexpected]
      exact List.mem_map_of_mem hmem
    obtain ⟨l, -, hl⟩ := List.mem_flatMap.mp (heading_of_chapters hchapter)
    exact depth_of_heading hl
  clear_value root found expected
  subst hroot hfound hexpected
  refine ⟨rfl, holds_toItems _ htidy, ?_, ?_, ?_⟩
  · rw [List.length_map, List.length_map]
  · intro i l c hl hc
    rw [List.getElem?_map, Option.map_eq_some_iff] at hl hc
    obtain ⟨h, hi, rfl⟩ := hl
    obtain ⟨h', hi', rfl⟩ := hc
    cases hi.symm.trans hi'
    refine ⟨rfl, ?_, holds_toItems _ (hunder h (List.mem_of_getElem? hi)).1⟩
    rw [List.map_map]
    exact Outline.belongsTo_ofBlocks (blocks document.toList) i h hi
  · refine depthItems_toItems _ 0 (Nat.zero_le 6) (fun e he => ?_)
      fun h hmem => ⟨(hdepths h hmem).2, hunder h hmem⟩
    cases e with
    | text t => rfl
    | headed depth title inner =>
      have hdeep : Outline.Throughout (fun depth _ => 1 ≤ depth) (outline document.toList) :=
        fun h hmem => (hdepths h hmem).1
      have hone : 0 < depth := hdeep.entry he
      simpa [Outline.under] using hone

end Markdown
end PromptWeave
