import Mathlib.Data.List.Chain
import PromptWeave.Proofs.Markdown.Sections

/-! Blanks at the ends of titles and texts.
A parsed document has titles, paragraphs and list items without blanks at their ends, except in two
places. Of a heading with nothing but blanks behind its hashes the last blank is the title, and a list
item without text that an indented line goes on with begins with the newline in front of that line. -/
namespace PromptWeave
namespace Markdown

/-! ### Titles of headings -/

/-- A heading with two or more blanks and nothing else behind its hashes. -/
inductive BareHeading : List Char → Prop
  | mk {indent gap : List Char} {depth : Nat} (hindent : Text.allBlank indent = true)
      (hfew : indent.length ≤ 3) (hdepth : 1 ≤ depth ∧ depth ≤ 6)
      (hgap : Text.allBlank gap = true) (htwo : 2 ≤ gap.length) :
      BareHeading (indent ++ List.replicate depth '#' ++ gap)

theorem firm_cleanTitle {raw : List Char} (h : Text.Firm raw) : Text.Firm (cleanTitle raw) := by
  rw [cleanTitle]
  split
  next => exact h
  next hkept =>
    obtain ⟨c, rest, rfl, hc⟩ := h.first
    -- the hashes that are dropped leave the first character if they leave any
    have hfront := Text.dropLastWhile_isPrefix (· == '#') (c :: rest)
    rcases List.prefix_cons_iff.mp hfront with hnone | ⟨ds, hds, -⟩
    · simp [hnone] at hkept
    · rw [hds]
      exact Text.firm_trimEnd ds hc

theorem cleanTitle_blank {c : Char} (h : Text.isBlank c = true) : cleanTitle [c] = [c] := by
  have hhash : c ≠ '#' := by
    rintro rfl
    simp [Text.isBlank] at h
  simp [cleanTitle, Text.dropLastWhile, Text.trimEnd, hhash, h]

theorem titleOf?_blank {gap : List Char} (h : Text.allBlank gap = true) :
    titleOf? gap = if 2 ≤ gap.length then gap.getLast?.map fun c => [c] else none := by
  have hall := List.all_eq_true.mp h
  have htaken : gap.takeWhile Text.isBlank = gap := List.takeWhile_eq_self_iff.mpr hall
  have hbody : gap.dropWhile Text.isBlank = [] := List.dropWhile_eq_nil_iff.mpr hall
  have hclean : (gap.getLast?.map fun c => cleanTitle [c]) = gap.getLast?.map fun c => [c] :=
    Option.map_congr fun c hc => cleanTitle_blank (hall c (List.mem_of_getLast? hc))
  rw [titleOf?, htaken, hbody, hclean]
  cases gap <;> rfl

theorem firm_titleOf? {behind title : List Char} (h : titleOf? behind = some title)
    (hshown : Text.allBlank behind = false) : Text.Firm title := by
  rw [titleOf?] at h
  split at h
  · cases h
  · cases hbody : behind.dropWhile Text.isBlank with
    | nil =>
      have hblank : Text.allBlank behind = true :=
        List.all_eq_true.mpr (List.dropWhile_eq_nil_iff.mp hbody)
      rw [hshown] at hblank
      cases hblank
    | cons c rest =>
      have hc := List.head?_dropWhile_not Text.isBlank behind
      simp only [hbody, List.head?_cons] at hc h
      cases h
      exact firm_cleanTitle (Text.firm_trimEnd rest (by simpa using hc))

theorem heading?_bare {line : List Char} (h : BareHeading line) :
    ∃ depth c, heading? line = some (depth, [c]) ∧ Text.isBlank c = true := by
  cases h with
  | @mk indent gap depth hindent hfew hdepth hgap htwo =>
    have hhash : gap.head? ≠ some '#' := by
      intro hhead
      have hblank := List.all_eq_true.mp hgap '#' (List.mem_of_head? hhead)
      simp [Text.isBlank] at hblank
    have hne : gap ≠ [] := by
      rintro rfl
      simp at htwo
    refine ⟨depth, gap.getLast hne, ?_, List.all_eq_true.mp hgap _ (List.getLast_mem hne)⟩
    rw [heading?_parts hindent hfew hdepth hhash, titleOf?_blank hgap, if_pos htwo,
      List.getLast?_eq_some_getLast hne]
    rfl

theorem heading?_cases {line title : List Char} {depth : Nat}
    (h : heading? line = some (depth, title)) :
    Text.Firm title ∨ BareHeading line ∧ ∃ c, title = [c] ∧ Text.isBlank c = true := by
  obtain ⟨indent, behind, rfl, hindent, hfew, hdepth, htitle⟩ := heading?_eq_some h
  cases hblank : Text.allBlank behind with
  | false => exact Or.inl (firm_titleOf? htitle hblank)
  | true =>
    rw [titleOf?_blank hblank] at htitle
    split at htitle
    next htwo =>
      obtain ⟨c, hlast, rfl⟩ := Option.map_eq_some_iff.mp htitle
      have hc := List.all_eq_true.mp hblank c (List.mem_of_getLast? hlast)
      exact Or.inr ⟨.mk hindent hfew hdepth hblank htwo, c, rfl, hc⟩
    next => cases htitle

theorem firm_titles_iff (line : List Char) :
    (∀ found ∈ heading? line, Text.Firm found.2) ↔ ¬ BareHeading line := by
  constructor
  · intro hfirm hbare
    obtain ⟨depth, c, hheading, hc⟩ := heading?_bare hbare
    exact Text.not_firm_cons hc [] (hfirm _ hheading)
  · rintro hbare ⟨depth, title⟩ hfound
    exact (heading?_cases hfound).resolve_right fun h => hbare h.1

/-! ### Blocks -/

/-- A block without blanks at its ends, code apart, or one of the two exceptions. -/
inductive Block.Neat : Block → Prop
  | heading {depth : Nat} {title : List Char} (h : Text.Firm title) : Neat (.heading depth title)
  | blankTitle {depth : Nat} {c : Char} (h : Text.isBlank c = true) : Neat (.heading depth [c])
  | paragraph {lines : List (List Char)} (h : Text.Firm (Text.unlines lines)) :
      Neat (.paragraph lines)
  | item {text : List Char} (h : Text.Firm text) : Neat (.item text)
  | hollowItem {more : List Char} (h : Text.Firm more) : Neat (.item ('\n' :: more))
  | code {lines : List (List Char)} : Neat (.code lines)

theorem neat_heading {line title : List Char} {depth : Nat}
    (h : heading? line = some (depth, title)) : (Block.heading depth title).Neat := by
  rcases heading?_cases h with hfirm | ⟨-, c, rfl, hc⟩
  · exact .heading hfirm
  · exact .blankTitle hc

theorem neat_paragraph_concat {lines : List (List Char)} {text : List Char}
    (h : (Block.paragraph lines).Neat) (htext : Text.Firm text) :
    (Block.paragraph (lines ++ [text])).Neat := by
  cases h with
  | paragraph h =>
    have hne : lines ≠ [] := by
      rintro rfl
      exact h.ne_nil rfl
    have happend := h.append htext ['\n']
    rw [List.append_assoc, List.singleton_append, ← Text.unlines_concat hne] at happend
    exact .paragraph happend

theorem neat_item_append {begun text : List Char} (h : begun ≠ [] → (Block.item begun).Neat)
    (htext : Text.Firm text) : (Block.item (begun ++ '\n' :: text)).Neat := by
  by_cases hbegun : begun = []
  · subst hbegun
    exact .hollowItem htext
  · have hnewline : ∀ cs, cs ++ '\n' :: text = cs ++ ['\n'] ++ text := by simp
    cases h hbegun with
    | item hfirm =>
      rw [hnewline]
      exact .item (hfirm.append htext ['\n'])
    | hollowItem hmore =>
      rw [List.cons_append, hnewline]
      exact .hollowItem (hmore.append htext ['\n'])

theorem neat_next {p : Pending} (line : List Char) (hp : ∀ b ∈ p.finish, b.Neat) :
    (∀ b ∈ (p.next line).1, b.Neat) ∧ ∀ b ∈ (p.next line).2.finish, b.Neat := by
  have hclass := classified line
  rw [Pending.next]
  generalize classify line = c at hclass ⊢
  cases hclass with
  | fence => exact ⟨hp, by simpa [Pending.finish] using .code⟩
  | heading _ h =>
    refine ⟨List.forall_mem_append.mpr ⟨hp, ?_⟩, by simp [Pending.finish]⟩
    simpa using neat_heading h
  | blank => exact ⟨hp, by simp [Pending.finish]⟩
  | bullet _ _ h =>
    obtain ⟨rest, rfl⟩ := bullet?_eq_some h
    refine ⟨hp, ?_⟩
    by_cases hrest : Text.trim rest = []
    · simp [Pending.finish, hrest]
    · simpa [Pending.finish, hrest] using .item (Text.firm_trim hrest)
  | running _ _ hblank =>
    have htext := Text.firm_trim hblank
    have hline : (Block.paragraph [Text.trim line]).Neat := .paragraph (by simpa using htext)
    have hparagraph : ∀ b ∈ (Pending.paragraph [Text.trim line]).finish, b.Neat := by
      simpa [Pending.finish] using hline
    cases p with
    | item begun =>
      cases isIndented line with
      | false => exact ⟨hp, hparagraph⟩
      | true =>
        have hbegun : begun ≠ [] → (Block.item begun).Neat := by
          intro hne
          simpa [Pending.finish, hne] using hp
        refine ⟨by simp, ?_⟩
        simpa [Pending.finish] using neat_item_append hbegun htext
    | paragraph lines =>
      refine ⟨by simp, ?_⟩
      simpa [Pending.finish] using neat_paragraph_concat (hp _ List.mem_cons_self) htext
    | _ => exact ⟨hp, hparagraph⟩

theorem neat_step {p : Pending} (line : List Char) (hp : ∀ b ∈ p.finish, b.Neat) :
    (∀ b ∈ (p.step line).1, b.Neat) ∧ ∀ b ∈ (p.step line).2.finish, b.Neat := by
  cases p with
  | code mark lines =>
    rw [Pending.step]
    split
    · simpa [Pending.finish] using .code
    · simpa [Pending.finish] using .code
  | _ => exact neat_next line hp

theorem neat_blocks (document : List Char) : ∀ b ∈ blocks document, b.Neat :=
  forall_blocksFrom (fun _ line _ hq => neat_step line hq) (by simp [Pending.finish])

/-! ### Items without text -/

/-- Outside code, the marker of a list item with no text behind it. -/
def EmptyItem (l : List Char × Bool) : Prop := l.2 = false ∧ classify l.1 = .bullet []

/-- Outside code, an indented line of running text, which goes on with a list item. -/
def Continuation (l : List Char × Bool) : Prop :=
  l.2 = false ∧ classify l.1 = .running (Text.trim l.1) true

def Block.Hollow (b : Block) : Prop := ∃ more, b = .item ('\n' :: more)

theorem trim_ne_newline (cs more : List Char) : Text.trim cs ≠ '\n' :: more := by
  intro h
  have hfirm : Text.Firm (Text.trim cs) := Text.firm_trim (by simp [h])
  rw [h] at hfirm
  exact Text.not_firm_cons Text.isBlank_newline more hfirm

theorem not_hollow_item_trim (cs : List Char) :
    ∀ b ∈ (Pending.item (Text.trim cs)).finish, ¬ b.Hollow := by
  intro b hb
  rw [Pending.finish] at hb
  split at hb
  · cases hb
  · cases List.mem_singleton.mp hb
    rintro ⟨more, he⟩
    cases trim_ne_newline cs more (Block.item.inj he)

theorem not_hollow_item_append {begun text : List Char} :
    (∀ b ∈ (Pending.item (begun ++ '\n' :: text)).finish, ¬ b.Hollow) ↔
      (∀ b ∈ (Pending.item begun).finish, ¬ b.Hollow) ∧ begun ≠ [] := by
  cases begun with
  | nil => simp [Pending.finish, Block.Hollow]
  | cons c begun => simp [Pending.finish, Block.Hollow]

/-- A line makes an item hollow only if it goes on with one that has no text yet. -/
theorem hollow_next (p : Pending) (line : List Char) :
    let l := (line, inCode none line)
    ((∀ b ∈ (p.next line).1 ++ (p.next line).2.finish, ¬ b.Hollow) ↔
        (∀ b ∈ p.finish, ¬ b.Hollow) ∧ (p = .item [] → ¬ Continuation l)) ∧
      ((p.next line).2 = .item [] ↔ EmptyItem l) := by
  have hclass := classified line
  simp only [Continuation, EmptyItem, List.forall_mem_append]
  rw [Pending.next]
  generalize classify line = c at hclass ⊢
  cases hclass with
  | fence => simp [Pending.finish, Block.Hollow]
  | heading => simp [Pending.finish, Block.Hollow, or_imp, forall_and]
  | blank => simp [Pending.finish]
  | @bullet text hfence _ h =>
    obtain ⟨rest, rfl⟩ := bullet?_eq_some h
    rw [and_iff_left (not_hollow_item_trim rest)]
    simp [inCode, hfence]
  | running hfence _ hblank =>
    cases p with
    | item begun =>
      cases isIndented line with
      | false => simp [Pending.finish, Block.Hollow]
      | true => simp [not_hollow_item_append, inCode, hfence]
    | _ => simp [Pending.finish, Block.Hollow]

theorem hollow_step (p : Pending) (line : List Char) :
    let l := (line, inCode p.mark line)
    ((∀ b ∈ (p.step line).1 ++ (p.step line).2.finish, ¬ b.Hollow) ↔
        (∀ b ∈ p.finish, ¬ b.Hollow) ∧ (p = .item [] → ¬ Continuation l)) ∧
      ((p.step line).2 = .item [] ↔ EmptyItem l) := by
  cases p with
  | code mark lines =>
    rw [Pending.step]
    split <;> simp [Pending.finish, Block.Hollow, EmptyItem, inCode, Pending.mark]
  | _ => exact hollow_next _ line

/-- Items are hollow where an item without text is gone on with on the next line. -/
theorem hollow_blocksFrom (p : Pending) (lines : List (List Char)) :
    (∀ b ∈ blocksFrom p lines, ¬ b.Hollow) ↔
      (∀ b ∈ p.finish, ¬ b.Hollow) ∧
        (p = .item [] → ∀ m ∈ (fenced p.mark lines).head?, ¬ Continuation m) ∧
        (fenced p.mark lines).IsChain fun l m => EmptyItem l → ¬ Continuation m := by
  induction lines generalizing p with
  | nil => simp [fenced]
  | cons line rest ih =>
    obtain ⟨hkept, hempty⟩ := hollow_step p line
    -- what holds of the next line while an item is empty is the first link of the chain
    have hswap (ms : List (List Char × Bool)) :
        (EmptyItem (line, inCode p.mark line) → ∀ m ∈ ms.head?, ¬ Continuation m) ↔
          ∀ m ∈ ms.head?, EmptyItem (line, inCode p.mark line) → ¬ Continuation m :=
      ⟨fun h m hm he => h he m hm, fun h he m hm => h m hm he⟩
    rw [List.forall_mem_append] at hkept
    rw [blocksFrom_cons, List.forall_mem_append, ih, mark_step, hempty, hswap, fenced,
      List.isChain_cons, ← and_assoc, hkept]
    simp [and_assoc]

/-! ### Titles and texts of the parsed document -/

def Block.text : Block → List Char
  | .heading _ title => title
  | .paragraph lines | .code lines => Text.unlines lines
  | .item text => text

def Block.isProse : Block → Bool
  | .paragraph _ | .item _ => true
  | .heading _ _ | .code _ => false

theorem Block.Neat.firm_iff {b : Block} (h : b.Neat) :
    (b.isProse → Text.Firm b.text) ↔ ¬ b.Hollow := by
  cases h with
  | paragraph h => simpa [isProse, text, Hollow] using h
  | item h =>
    refine iff_of_true (fun _ => h) ?_
    rintro ⟨more, he⟩
    cases he
    exact Text.not_firm_cons Text.isBlank_newline more h
  | hollowItem h =>
    refine iff_of_false (fun hfirm => ?_) fun hnot => hnot ⟨_, rfl⟩
    exact Text.not_firm_cons Text.isBlank_newline _ (hfirm rfl)
  | _ => simp [isProse, Hollow]

end Markdown

inductive SectionEntry
  | title (t : String)
  | text (t : String)
deriving DecidableEq

namespace SectionItem

mutual
/-- The titles of sections and the texts of leaves, a title in front of what its section holds. -/
def entries : SectionItem → List SectionEntry
  | .leaf l => [.text l.text]
  | .branch head items => (head.title.map .title).toList ++ entriesAll items
def entriesAll : List SectionItem → List SectionEntry
  | [] => []
  | i :: is => entries i ++ entriesAll is
end

theorem entriesAll_append (is js : List SectionItem) :
    entriesAll (is ++ js) = entriesAll is ++ entriesAll js := by
  induction is with
  | nil => rfl
  | cons i is ih => rw [List.cons_append, entriesAll, entriesAll, ih, List.append_assoc]

end SectionItem

def Section.entries (s : Section) : List SectionEntry := s.toItem.entries

namespace Markdown

def Block.entry : Block → SectionEntry
  | .heading _ title => .title (String.ofList title)
  | b => .text (String.ofList b.text)

theorem entries_ofBlocks (kind : Kind) (bs : List Block) :
    SectionItem.entriesAll (toItems (.plain kind) (Outline.ofBlocks bs)) = bs.map Block.entry := by
  induction bs with
  | nil => rfl
  | cons b bs ih =>
    rw [Outline.ofBlocks_cons, List.map_cons, ← ih]
    cases b with
    | heading depth title =>
      have hsplit := congrArg (toItems (.plain kind)) (List.takeWhile_append_dropWhile
        (p := Outline.under depth) (l := Outline.ofBlocks bs))
      rw [toItems_eq_map, List.map_append, ← toItems_eq_map, ← toItems_eq_map] at hsplit
      rw [Outline.place, toItems, toItem_headed, SectionItem.entriesAll, SectionItem.entries,
        List.append_assoc, ← SectionItem.entriesAll_append, hsplit]
      rfl
    | _ => rw [Outline.place, toItems, toItem_text]; rfl

theorem entries_implicitRoot (s : Section) : (implicitRoot s).entries = s.entries := by
  rw [implicitRoot]
  split
  · exact List.append_nil _
  · rfl

theorem entries_parse (kind : Kind) (document : String) :
    (parse (.plain kind) document).entries = (blocks document.toList).map Block.entry := by
  rw [← entries_implicitRoot, implicitRoot_parse, ← entries_ofBlocks kind]
  rfl

theorem heading_mem_blocks {document : List Char} {depth : Nat} {title : List Char} :
    .heading depth title ∈ blocks document ↔
      ∃ l ∈ fenced none (Text.lines document), headingOf l = some (depth, title) := by
  have hblock (b : Block) : .heading depth title ∈ b.parts ↔ b = .heading depth title := by
    cases b <;> simp [Block.parts, eq_comm]
  have hline (l : List Char × Bool) :
      .heading depth title ∈ partsOf l ↔ headingOf l = some (depth, title) := by
    rw [partsOf]
    cases headingOf l with
    | some found => simp [Prod.ext_iff, eq_comm]
    | none => simp
  have hparts := congrArg (Part.heading depth title ∈ ·) (parts_blocks document)
  simpa [hblock, hline] using hparts

theorem firm_headingOf_iff (l : List Char × Bool) :
    (∀ found ∈ headingOf l, Text.Firm found.2) ↔ (l.2 = false → ¬ BareHeading l.1) := by
  rw [headingOf, ← firm_titles_iff]
  cases l.2 <;> simp

theorem splitLeadingHeading_title (text : String) : (splitLeadingHeading text).1 =
    (((Text.lines text.toList).find? fun l => !Text.allBlank l).bind heading?).map
      fun found => String.ofList found.2 := by
  rw [splitLeadingHeading, List.find?_eq_head?_dropWhile_not]
  simp only [Bool.not_not]
  split
  next h => simp [h]
  next first rest h =>
    rw [h, List.head?_cons, Option.bind_some]
    split
    next hheading => rw [hheading]; rfl
    next hheading => rw [hheading]; rfl

theorem firm_titles_blocks_iff (document : List Char) :
    (∀ title, .title title ∈ (blocks document).map Block.entry → Text.Firm title.toList) ↔
      ∀ l ∈ fenced none (Text.lines document), l.2 = false → ¬ BareHeading l.1 := by
  have hmade : (∀ title, .title title ∈ (blocks document).map Block.entry →
      Text.Firm title.toList) ↔
        ∀ l ∈ fenced none (Text.lines document), ∀ found ∈ headingOf l, Text.Firm found.2 := by
    constructor
    · rintro hfirm l hl ⟨depth, title⟩ hfound
      have hmem := List.mem_map_of_mem (f := Block.entry) (heading_mem_blocks.mpr ⟨l, hl, hfound⟩)
      simpa using hfirm _ hmem
    · intro hfirm title htitle
      obtain ⟨b, hb, he⟩ := List.mem_map.mp htitle
      cases b with
      | heading depth cs =>
        cases he
        obtain ⟨l, hl, hfound⟩ := heading_mem_blocks.mp hb
        simpa using hfirm l hl _ hfound
      | _ => cases he
  rw [hmade]
  exact forall₂_congr fun l _ => firm_headingOf_iff l

theorem firm_prose_iff (document : List Char) :
    (∀ b ∈ blocks document, b.isProse → Text.Firm b.text) ↔
      (fenced none (Text.lines document)).IsChain fun l m => EmptyItem l → ¬ Continuation m := by
  have hhollow : (∀ b ∈ blocks document, b.isProse → Text.Firm b.text) ↔
      ∀ b ∈ blocks document, ¬ b.Hollow :=
    forall₂_congr fun b hb => (neat_blocks document b hb).firm_iff
  rw [hhollow]
  exact (hollow_blocksFrom .nothing _).trans (by simp [Pending.finish, Pending.mark])

theorem firm_leadingTitle_iff (text : String) :
    (∀ title ∈ (splitLeadingHeading text).1, Text.Firm title.toList) ↔
      ∀ l ∈ (Text.lines text.toList).find? fun l => !Text.allBlank l, ¬ BareHeading l := by
  rw [splitLeadingHeading_title]
  cases (Text.lines text.toList).find? fun l => !Text.allBlank l with
  | none => simp
  | some first =>
    have hmap : (∀ title ∈ (heading? first).map fun found => String.ofList found.2,
        Text.Firm title.toList) ↔ ∀ found ∈ heading? first, Text.Firm found.2 := by
      cases heading? first <;> simp
    rw [Option.bind_some, hmap, firm_titles_iff]
    simp

/-- The titles and texts of a parsed document are those of its blocks. All titles are without blanks
at their ends exactly if no line outside code is a bare heading, and all paragraphs and list items are
exactly if no item without text is gone on with. A title that is split off in front of a document has
none exactly if the first line that is not blank is no bare heading. -/
theorem parse_trimmed_iff (kind : Kind) (document : String) :
    let lines := Text.lines document.toList
    let made := blocks document.toList
    let entries := (parse (.plain kind) document).entries
    entries = made.map Block.entry ∧ (∀ b ∈ made, b.Neat) ∧
      ((∀ title, .title title ∈ entries → Text.Firm title.toList) ↔
        ∀ l ∈ fenced none lines, l.2 = false → ¬ BareHeading l.1) ∧
      ((∀ b ∈ made, b.isProse → Text.Firm b.text) ↔
        (fenced none lines).IsChain fun l m => EmptyItem l → ¬ Continuation m) ∧
      ((∀ title ∈ (splitLeadingHeading document).1, Text.Firm title.toList) ↔
        ∀ l ∈ lines.find? (fun l => !Text.allBlank l), ¬ BareHeading l) := by
  intro lines made entries
  have hentries : entries = made.map Block.entry := entries_parse kind document
  refine ⟨hentries, neat_blocks document.toList, ?titles, firm_prose_iff document.toList,
    firm_leadingTitle_iff document⟩
  case titles =>
    rw [hentries]
    exact firm_titles_blocks_iff document.toList

/-- A marker with nothing but an indented line behind it makes an item that begins with a newline, and
a hash with two blanks a title that is one. -/
theorem blank_ends_left :
    blocks "- \n  more\n".toList = [.item "\nmore".toList] ∧
      (parse (.plain .instruction) "- \n  more\n").entries = [.text "\nmore"] ∧
      (parse (.plain .instruction) "#  \ntext\n").entries = [.title " ", .text "text"] ∧
      splitLeadingHeading "#  \ntext\n" = (some " ", "text") := by
  decide +kernel

end Markdown
end PromptWeave
