import PromptWeave.Proofs.Markdown.RoundTrip
import PromptWeave.Proofs.Render.Tags

/-! Texts that are written between tags and read again.
A section of texts is a document with a paragraph for each text once its tags are taken away. Lines
that are set in stand too far in front to be anything but running text, and the blanks in front of
them are dropped, so that each text is read as it was. -/
namespace PromptWeave
namespace Markdown

open Render (between linesOfAll setIn spaced)

/-! ### Lines between tags -/

theorem heading?_setIn {line : List Char} (h : Text.Firm line) :
    heading? (' ' :: ' ' :: line) = heading? line := by
  obtain ⟨c, rest, rfl, hc⟩ := h.first
  simp [heading?, hc, Text.isBlank_space]

theorem bullet?_setIn (line : List Char) : bullet? (' ' :: ' ' :: line) = bullet? line := by
  simp [bullet?, Text.trimStart, Text.isBlank_space]

theorem trim_setIn (line : List Char) : Text.trim (' ' :: ' ' :: line) = Text.trim line := by
  simp [Text.trim, Text.trimStart, Text.isBlank_space]

theorem classify_setIn {line : List Char} (h : RunningLine line) :
    classify (setIn line) = .running line true := by
  rw [setIn, if_neg (by simpa using h.shown)]
  simp [classify, trim_setIn, heading?_setIn h.firm, bullet?_setIn, h.trimmed, h.noFence,
    h.noHeading, h.noBullet, h.shown, isIndented]

variable (o : FormatOptions)

/-- Running text is read between tags as it is without them. -/
theorem reads_between {line : List Char} (h : RunningLine line) : Reads (between o line) line := by
  rw [between]
  split
  · exact ⟨true, classify_setIn h⟩
  · exact ⟨isIndented line, classify_running h⟩

theorem reads_map_between {lines : List (List Char)} (h : ∀ l ∈ lines, RunningLine l) :
    List.Forall₂ Reads (lines.map (between o)) lines :=
  List.forall₂_map_left_iff.mpr (List.forall₂_same.mpr fun l hl => reads_between o (h l hl))

/-! ### Texts between tags -/

variable {leaves : List Leaf}

theorem blocksFrom_between (level : Nat) (h : ∀ l ∈ leaves, PlainLeaf l) :
    blocksFrom .nothing ((spaced (linesOfAll (leaves.map .leaf))).map (between o)) =
      blocksOfAll level (leaves.map .leaf) := by
  induction leaves with
  | nil => rfl
  | cons l leaves ih =>
    obtain ⟨hl, hleaves⟩ := List.forall_mem_cons.mp h
    have hreads := reads_map_between o hl.lines
    have hne := Text.splitAt_ne_nil '\n' l.text.toList
    rw [List.map_cons, linesOfAll, Render.linesOf, blocksOfAll, blocksOf, ← ih hleaves,
      List.singleton_append]
    -- a paragraph ends with the document or at the empty line in front of the next text
    cases leaves with
    | nil =>
      have hread : blocksFrom .nothing (_ ++ []) = _ := blocksFrom_paragraph hreads hne (by simp)
      simpa [linesOfAll] using hread
    | cons m leaves =>
      rw [Render.spaced_cons _ (by simp [linesOfAll]), List.map_append, List.map_cons,
        blocksFrom_paragraph hreads hne (by simp [between]), Render.between_eq_nil.mpr rfl,
        blocksFrom_blank _ rfl]
      rfl

theorem firm_linesOfAll (h : ∀ l ∈ leaves, PlainLeaf l) :
    ∀ ls ∈ linesOfAll (leaves.map .leaf), ls ≠ [] ∧ ∀ l ∈ ls, Text.Firm l ∧ '\n' ∉ l := by
  induction leaves with
  | nil => simp [linesOfAll]
  | cons l leaves ih =>
    obtain ⟨hl, hleaves⟩ := List.forall_mem_cons.mp h
    refine List.forall_mem_cons.mpr ⟨⟨Text.splitAt_ne_nil '\n' _, fun line hline => ?_⟩, ih hleaves⟩
    exact ⟨(hl.lines line hline).firm, Text.notMem_splitAt hline⟩

theorem noBreak_between (h : ∀ l ∈ leaves, PlainLeaf l) :
    ∀ line ∈ (spaced (linesOfAll (leaves.map .leaf))).map (between o),
      '\n' ∉ line ∧ line.getLast? ≠ some '\r' := by
  refine List.forall_mem_map.mpr fun line hline => ?_
  rw [Render.mem_between_iff (by decide), Render.getLast?_between]
  rcases Render.mem_spaced hline with rfl | ⟨ls, hls, hline⟩
  · simp
  · obtain ⟨hfirm, hbreak⟩ := (firm_linesOfAll h ls hls).2 line hline
    exact ⟨hbreak, hfirm.getLast?_ne (by decide)⟩

/-- The lines that are written are the lines that are read. -/
theorem lines_between (h : ∀ l ∈ leaves, PlainLeaf l) :
    Text.lines (Text.unlines ((spaced (linesOfAll (leaves.map .leaf))).map (between o))) =
      (spaced (linesOfAll (leaves.map .leaf))).map (between o) := by
  refine Text.lines_unlines_of_last (noBreak_between o h) ?_
  have hlast := Render.getLast?_spaced fun ls hls =>
    have hfirm := firm_linesOfAll h ls hls
    ⟨hfirm.1, fun hnil => (hfirm.2 [] hnil).1.ne_nil rfl⟩
  rw [List.getLast?_map]
  intro he
  obtain ⟨line, hline, hempty⟩ := Option.map_eq_some_iff.mp he
  rw [Render.between_eq_nil.mp hempty] at hline
  exact hlast hline

theorem parts_leaves (level : Nat) (h : ∀ l ∈ leaves, PlainLeaf l) :
    Render.parts o level (leaves.map .leaf) =
      (linesOfAll (leaves.map .leaf)).map Text.unlines := by
  induction leaves with
  | nil => rfl
  | cons l leaves ih =>
    obtain ⟨hl, hleaves⟩ := List.forall_mem_cons.mp h
    have hleaf := Render.leaf_lines o level hl.untitled fun line hline => (hl.lines line hline).firm
    rw [List.map_cons, Render.parts, Render.item, hleaf, ih hleaves]
    rfl

theorem sectionAt_leaves {o : FormatOptions} (hstyle : o.sectionStyle = .tag) {head : SectionHead}
    {title : String} (htitle : head.title = some title) (h : ∀ l ∈ leaves, PlainLeaf l) :
    Render.sectionAt o 1 ⟨head, leaves.map .leaf⟩ =
      Text.unlines (Render.openTag title.toList ::
        (spaced (linesOfAll (leaves.map .leaf))).map (between o) ++
          [Render.closeTag title.toList]) := by
  have hfirm := firm_linesOfAll h
  have hread := lines_between { o with indentation := false } h
  rw [Render.between_eq_id rfl, List.map_id] at hread
  have hfirst : (spaced (linesOfAll (leaves.map .leaf))).head? ≠ some [] := by
    refine Render.head?_spaced (fun ls hls => (hfirm ls hls).1) fun ls hls hnil => ?_
    have hmem := hfirm ls (List.mem_of_head? hls)
    exact (hmem.2 [] (List.mem_of_head? hnil)).1.ne_nil rfl
  rw [← Render.wrapTag_unlines title.toList hfirst fun _ => hread, ← Render.joinParts_unlines
    fun ls hls => (hfirm ls hls).1, ← parts_leaves o 2 h, Render.sectionAt, hstyle, htitle]
  rfl

/-! ### Texts that are read again -/

theorem allPlain_leaves (h : ∀ l ∈ leaves, PlainLeaf l) : AllPlain (leaves.map .leaf) := by
  induction leaves with
  | nil => trivial
  | cons l leaves ih =>
    obtain ⟨hl, hleaves⟩ := List.forall_mem_cons.mp h
    exact ⟨hl, ih hleaves⟩

theorem leavesFirst_leaves : LeavesFirst (leaves.map .leaf) :=
  List.pairwise_map.mpr (List.pairwise_of_forall fun _ _ _ => rfl)

theorem bareAll_leaves (kind : Kind) :
    bareAll kind (leaves.map .leaf) = leaves.map fun l => .leaf (Leaf.ofText kind l.text) := by
  induction leaves with
  | nil => rfl
  | cons l leaves ih => rw [List.map_cons, bareAll, ih]; rfl

theorem unwrap_leaves (head : SectionHead) (f : Leaf → Leaf) :
    unwrap ⟨head, leaves.map fun l => .leaf (f l)⟩ = ⟨head, leaves.map fun l => .leaf (f l)⟩ := by
  rcases leaves with _ | ⟨l, _ | ⟨m, leaves⟩⟩ <;> rfl

theorem outline_between (h : ∀ l ∈ leaves, PlainLeaf l) :
    outline (Text.unlines ((spaced (linesOfAll (leaves.map .leaf))).map (between o))) =
      outlineOfAll 1 (leaves.map .leaf) := by
  have hread := ofBlocks_blocksOfAll _ 1 (allPlain_leaves h) leavesFirst_leaves [] (by simp)
  rw [outline, blocks, lines_between o h, blocksFrom_between o 1 h]
  simpa using hread

/-- A section of texts that is written in tags has its tags on the first and the last line, and what
is between them is read as the same texts. -/
theorem parse_between_tags (kind : Kind) {o : FormatOptions} (ho : o.sectionStyle = .tag)
    {head : SectionHead} {title : String} (htitle : head.title = some title)
    (hline : '\n' ∉ title.toList) (hleaves : ∀ l ∈ leaves, PlainLeaf l) :
    ∃ inner, Text.lines (renderSection o ⟨head, leaves.map .leaf⟩).toList =
        Render.openTag title.toList :: inner ++ [Render.closeTag title.toList] ∧
      parse (.plain kind) (String.ofList (Text.unlines inner)) =
        { Section.empty kind with
          items := leaves.map fun l => .leaf (Leaf.ofText kind l.text) } := by
  refine ⟨(spaced (linesOfAll (leaves.map .leaf))).map (between o), ?_, ?_⟩
  · rw [renderSection, String.toList_ofList, sectionAt_leaves ho htitle hleaves]
    have hlast : (Render.openTag title.toList ::
        (spaced (linesOfAll (leaves.map .leaf))).map (between o) ++
          [Render.closeTag title.toList]).getLast? ≠ some [] := by
      rw [List.getLast?_concat]
      simp [Render.closeTag]
    refine Text.lines_unlines_of_last ?_ hlast
    rw [List.cons_append, List.forall_mem_cons, List.forall_mem_append, List.forall_mem_singleton,
      Render.getLast?_openTag, Render.getLast?_closeTag]
    refine ⟨⟨?_, by decide⟩, noBreak_between o hleaves, ⟨?_, by decide⟩⟩
    · simp [Render.openTag, hline]
    · simp [Render.closeTag, hline]
  · rw [parse, String.toList_ofList, outline_between o hleaves,
      toItems_outlineOfAll kind _ 1 (allPlain_leaves hleaves), bareAll_leaves]
    exact unwrap_leaves _ fun l => Leaf.ofText kind l.text

def rules : List Leaf :=
  [Leaf.ofText .context "Be brief.\n#always", Leaf.ofText .context "<b>- 3</b>"]

theorem parse_between_tags_rules :
    let o := { Render.tagOptions with indentation := true }
    let head : SectionHead := ⟨some "Rules", .context, none, none, none⟩
    o.sectionStyle = .tag ∧ '\n' ∉ "Rules".toList ∧ (∀ l ∈ rules, PlainLeaf l) ∧
    ∃ inner, Text.lines (renderSection o ⟨head, rules.map .leaf⟩).toList =
        Render.openTag "Rules".toList :: inner ++ [Render.closeTag "Rules".toList] ∧
      parse (.plain .instruction) (String.ofList (Text.unlines inner)) =
        { Section.empty .instruction with
          items := rules.map fun l => .leaf (Leaf.ofText .instruction l.text) } := by
  intro o head
  have hline : '\n' ∉ "Rules".toList := by decide
  have hrules : ∀ l ∈ rules, PlainLeaf l := by decide
  exact ⟨rfl, hline, hrules, parse_between_tags .instruction rfl rfl hline hrules⟩

end Markdown
end PromptWeave
