import Mathlib.Data.List.Forall2
import PromptWeave.Proofs.Markdown.Lines
import PromptWeave.Proofs.Render.Chunks

/-! Documents written block by block.
A heading, or lines of running text, with a blank line behind are read as the heading or paragraph
that was written, whatever follows. A document of such blocks is therefore read as these blocks. -/
namespace PromptWeave
namespace Markdown

/-! ### Lines as they are written -/

structure RunningLine (line : List Char) : Prop where
  trimmed : Text.trim line = line
  shown : line ≠ []
  noFence : fenceMark? line = none
  noHeading : heading? line = none
  noBullet : bullet? line = none

instance (line : List Char) : Decidable (RunningLine line) :=
  decidable_of_iff (Text.trim line = line ∧ line ≠ [] ∧ fenceMark? line = none ∧
    heading? line = none ∧ bullet? line = none)
    ⟨fun ⟨h₁, h₂, h₃, h₄, h₅⟩ => ⟨h₁, h₂, h₃, h₄, h₅⟩,
      fun h => ⟨h.trimmed, h.shown, h.noFence, h.noHeading, h.noBullet⟩⟩

structure PlainTitle (title : List Char) : Prop where
  oneLine : '\n' ∉ title
  shown : title ≠ []
  trimmed : Text.trim title = title
  noClosing : title.getLast? ≠ some '#'

instance (title : List Char) : Decidable (PlainTitle title) :=
  decidable_of_iff ('\n' ∉ title ∧ title ≠ [] ∧ Text.trim title = title ∧
    title.getLast? ≠ some '#')
    ⟨fun ⟨h₁, h₂, h₃, h₄⟩ => ⟨h₁, h₂, h₃, h₄⟩,
      fun h => ⟨h.oneLine, h.shown, h.trimmed, h.noClosing⟩⟩

theorem RunningLine.firm {line : List Char} (h : RunningLine line) : Text.Firm line :=
  Text.firm_of_trim h.shown h.trimmed

theorem PlainTitle.firm {title : List Char} (h : PlainTitle title) : Text.Firm title :=
  Text.firm_of_trim h.shown h.trimmed

theorem classify_running {line : List Char} (h : RunningLine line) :
    classify line = .running line (isIndented line) := by
  simp [classify, h.trimmed, h.noFence, h.noHeading, h.noBullet, h.shown]

/-! ### Headings -/

theorem hashes_eq {depth : Nat} (h : 1 ≤ depth ∧ depth ≤ 6) :
    Render.hashes depth = List.replicate depth '#' := by
  rw [Render.hashes, Nat.min_eq_left h.2, Nat.max_eq_right h.1]

theorem firm_heading {title : List Char} (depth : Nat) (h : Text.Firm title) :
    Text.Firm (Render.heading depth title) := by
  obtain ⟨n, hn⟩ : ∃ n, max 1 (min depth 6) = n + 1 := ⟨max 1 (min depth 6) - 1, by omega⟩
  have hhash : Text.Firm ['#'] := ⟨⟨'#', [], rfl, by decide⟩, ⟨[], '#', rfl, by decide⟩⟩
  have hheading : Render.heading depth title =
      ['#'] ++ (List.replicate n '#' ++ [' ']) ++ title := by
    rw [Render.heading, Render.hashes, hn, List.replicate_succ]
    simp
  rw [hheading]
  exact hhash.append h _

theorem cleanTitle_plain {title : List Char} (h : PlainTitle title) : cleanTitle title = title := by
  have hkept : Text.dropLastWhile (· == '#') title = title := by
    obtain ⟨front, c, rfl, -⟩ := h.firm.last
    have hc : c ≠ '#' := by simpa using h.noClosing
    exact Text.dropLastWhile_concat front (by simpa using hc)
  simp [cleanTitle, hkept, h.firm.trimEnd]

theorem titleOf?_plain {title : List Char} (h : PlainTitle title) :
    titleOf? (' ' :: title) = some title := by
  obtain ⟨c, rest, rfl, hc⟩ := h.firm.first
  have hgap : (' ' :: c :: rest).takeWhile Text.isBlank = [' '] := by
    simp [hc, Text.isBlank_space]
  have hbody : (' ' :: c :: rest).dropWhile Text.isBlank = c :: rest := by
    simp [hc, Text.isBlank_space]
  rw [titleOf?, hgap, hbody, h.firm.trimEnd, cleanTitle_plain h]
  rfl

theorem heading?_heading {title : List Char} {depth : Nat} (hdepth : 1 ≤ depth ∧ depth ≤ 6)
    (h : PlainTitle title) : heading? (Render.heading depth title) = some (depth, title) := by
  have hline : Render.heading depth title = [] ++ List.replicate depth '#' ++ ' ' :: title := by
    rw [Render.heading, hashes_eq hdepth, List.nil_append]
  rw [hline, heading?_parts rfl (by simp) hdepth (by simp), titleOf?_plain h]
  rfl

theorem classify_heading {title : List Char} {depth : Nat} (hdepth : 1 ≤ depth ∧ depth ≤ 6)
    (h : PlainTitle title) :
    classify (Render.heading depth title) = .heading depth title := by
  have hfence : fenceMark? (Render.heading depth title) = none := by
    obtain ⟨n, rfl⟩ : ∃ n, depth = n + 1 := ⟨depth - 1, by omega⟩
    rw [Render.heading, hashes_eq hdepth, List.replicate_succ]
    rfl
  simp [classify, (firm_heading depth h.firm).trim, hfence, heading?_heading hdepth h]

/-! ### Blocks -/

inductive Written : Block → List Char → Prop
  | heading {depth : Nat} {title : List Char} (hdepth : 1 ≤ depth ∧ depth ≤ 6)
      (htitle : PlainTitle title) : Written (.heading depth title) (Render.heading depth title)
  | paragraph {lines : List (List Char)} (hne : lines ≠ [])
      (h : ∀ l ∈ lines, RunningLine l ∧ '\n' ∉ l) :
      Written (.paragraph lines) (Text.unlines lines)

/-- How a line of a paragraph stands in a document. -/
def Reads (line text : List Char) : Prop := ∃ indented, classify line = .running text indented

theorem reads_running {lines : List (List Char)} (h : ∀ l ∈ lines, RunningLine l) :
    List.Forall₂ Reads lines lines :=
  List.forall₂_same.mpr fun l hl => ⟨isIndented l, classify_running (h l hl)⟩

theorem blocksFrom_running {lines texts : List (List Char)} (h : List.Forall₂ Reads lines texts)
    (begun rest : List (List Char)) :
    blocksFrom (.paragraph begun) (lines ++ rest) =
      blocksFrom (.paragraph (begun ++ texts)) rest := by
  induction h generalizing begun with
  | nil => simp
  | @cons line text lines texts hline hlines ih =>
    obtain ⟨indented, hline⟩ := hline
    have hstep : (Pending.paragraph begun).step line = ([], .paragraph (begun ++ [text])) := by
      simp [Pending.step, Pending.next, hline]
    rw [List.cons_append, blocksFrom_cons, hstep, List.nil_append, ih, List.append_assoc,
      List.singleton_append]

/-- A blank line ends what is being read. -/
theorem blocksFrom_blank (p : Pending) (hcode : p.mark = none) (rest : List (List Char)) :
    blocksFrom p ([] :: rest) = p.finish ++ blocksFrom .nothing rest := by
  cases p with
  | code mark lines => cases hcode
  | _ => rfl

theorem blocksFrom_paragraph {lines texts : List (List Char)} (h : List.Forall₂ Reads lines texts)
    (hne : texts ≠ []) {rest : List (List Char)} (hrest : ∀ l ∈ rest.head?, l = []) :
    blocksFrom .nothing (lines ++ rest) = .paragraph texts :: blocksFrom .nothing rest := by
  cases h with
  | nil => exact absurd rfl hne
  | @cons line text lines texts hline hlines =>
    obtain ⟨indented, hline⟩ := hline
    have hstep : Pending.nothing.step line = ([], .paragraph [text]) := by
      simp [Pending.step, Pending.next, hline, Pending.finish]
    rw [List.cons_append, blocksFrom_cons, hstep, List.nil_append, blocksFrom_running hlines]
    cases rest with
    | nil => rfl
    | cons l rest =>
      cases hrest l rfl
      exact blocksFrom_blank _ rfl rest

/-- The lines of a written block, and how they are read at the end of a document or in front of a
blank line. -/
theorem Written.lines {b : Block} {c : List Char} (h : Written b c) :
    ∃ ls, c = Text.unlines ls ∧ ls ≠ [] ∧ (∀ l ∈ ls, Text.Firm l ∧ '\n' ∉ l) ∧
      ∀ rest, (∀ l ∈ rest.head?, l = []) →
        blocksFrom .nothing (ls ++ rest) = b :: blocksFrom .nothing rest := by
  cases h with
  | @heading depth title hdepth htitle =>
    have hline : '\n' ∉ Render.heading depth title := by
      simp [Render.heading, hashes_eq hdepth, htitle.oneLine]
    have hstep : Pending.nothing.step (Render.heading depth title) =
        ([.heading depth title], .nothing) := by
      simp [Pending.step, Pending.next, classify_heading hdepth htitle, Pending.finish]
    refine ⟨[Render.heading depth title], by simp, by simp, ?_, fun rest _ => ?_⟩
    · simpa using ⟨firm_heading depth htitle.firm, hline⟩
    · rw [List.singleton_append, blocksFrom_cons, hstep, List.singleton_append]
  | @paragraph lines hne h =>
    refine ⟨lines, rfl, hne, fun l hl => ⟨(h l hl).1.firm, (h l hl).2⟩, fun rest hrest => ?_⟩
    exact blocksFrom_paragraph (reads_running fun l hl => (h l hl).1) hne hrest

/-- A document that is written block by block is read block by block. -/
theorem blocks_joinParts {bs : List Block} {cs : List (List Char)}
    (h : List.Forall₂ Written bs cs) : blocks (Render.joinParts cs) = bs := by
  induction h with
  | nil => rfl
  | @cons b c bs cs hb hbs ih =>
    obtain ⟨ls, rfl, hne, hlines, hread⟩ := hb.lines
    rw [blocks] at ih ⊢
    cases hbs with
    | nil =>
      have hend := hread [] (by simp)
      rw [List.append_nil] at hend
      rw [Render.joinParts_singleton, Text.lines_unlines hlines, hend]
      rfl
    | cons =>
      rw [Render.joinParts_cons _ (by simp), Render.blankLine, List.append_assoc, List.cons_append,
        Text.lines_unlines_append hlines hne, List.cons_append, Text.lines_newline,
        hread _ (by simp), blocksFrom_blank _ rfl, List.nil_append, ih]
      rfl

end Markdown
end PromptWeave
