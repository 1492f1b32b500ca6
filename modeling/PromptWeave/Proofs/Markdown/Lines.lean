import PromptWeave.Markdown.Block
import PromptWeave.Proofs.Text

/-! The lines of a document and what its blocks hold of them.
Whatever is being read, a line adds what is left of it, once and behind all that came before. So the
blocks hold the headings and the texts of the lines in order, except for blank lines. -/
namespace PromptWeave
namespace Markdown

/-! ### Lines -/

/-- Whether a line belongs to fenced code when a fence may be open in front of it. -/
def inCode (opened : Option Char) (line : List Char) : Bool :=
  opened.isSome || (fenceMark? (Text.trim line)).isSome

/-- The fence that is open behind a line. -/
def fenceAfter (opened : Option Char) (line : List Char) : Option Char :=
  match opened with
  | some mark => if closesFence mark line then none else some mark
  | none => fenceMark? (Text.trim line)

def fenced : Option Char → List (List Char) → List (List Char × Bool)
  | _, [] => []
  | opened, line :: rest => (line, inCode opened line) :: fenced (fenceAfter opened line) rest

/-- The heading that a line is unless it belongs to fenced code. -/
def headingOf (l : List Char × Bool) : Option (Nat × List Char) :=
  if l.2 then none else heading? l.1

/-- What is left of a line: code as it is, of a heading the title, of a list item the text without
its marker, and of any other line all but the blanks around it. -/
def stripped (l : List Char × Bool) : List Char :=
  if l.2 then l.1
  else match heading? l.1, bullet? l.1 with
    | some (_, title), _ => title
    | none, some text => text
    | none, none => Text.trim l.1

/-- A heading or a line of text that is not blank. -/
inductive Part
  | heading (depth : Nat) (title : List Char)
  | text (line : List Char)

def partsOf (l : List Char × Bool) : List Part :=
  match headingOf l with
  | some (depth, title) => [.heading depth title]
  | none => if Text.allBlank (stripped l) then [] else [.text (stripped l)]

/-! ### What is left of a line stands in it -/

theorem cleanTitle_sublist (raw : List Char) : (cleanTitle raw).Sublist raw := by
  rw [cleanTitle]
  split
  · exact .refl raw
  · exact (Text.dropLastWhile_sublist _ _).trans (Text.dropLastWhile_sublist _ _)

theorem titleOf?_sublist {behind title : List Char} (h : titleOf? behind = some title) :
    title.Sublist behind := by
  rw [titleOf?] at h
  split at h
  · cases h
  · split at h
    · cases h
      exact (cleanTitle_sublist _).trans
        ((Text.dropLastWhile_sublist _ _).trans (List.dropWhile_sublist _))
    · split at h
      · obtain ⟨c, hc, rfl⟩ := Option.map_eq_some_iff.mp h
        have hmem : c ∈ behind := (List.takeWhile_sublist _).mem (List.mem_of_getLast? hc)
        exact (cleanTitle_sublist [c]).trans (List.singleton_sublist.mpr hmem)
      · cases h

/-- A heading is written with blanks, hashes and what gives the title. -/
theorem heading?_eq_some {line title : List Char} {depth : Nat}
    (h : heading? line = some (depth, title)) :
    ∃ indent behind, line = indent ++ List.replicate depth '#' ++ behind ∧
      Text.allBlank indent = true ∧ indent.length ≤ 3 ∧ (1 ≤ depth ∧ depth ≤ 6) ∧
      titleOf? behind = some title := by
  simp only [heading?] at h
  split at h
  next => cases h
  next hfits =>
    obtain ⟨found, htitle, hfound⟩ := Option.bind_eq_some_iff.mp h
    cases hfound
    simp only [Bool.or_eq_true, beq_iff_eq, decide_eq_true_eq, not_or] at hfits
    let rest := line.dropWhile Text.isBlank
    have hhashes : rest.takeWhile (· == '#') = List.replicate _ '#' :=
      List.eq_replicate_of_mem fun c hc => by simpa using List.mem_takeWhile_imp hc
    have hrest := List.prefix_iff_eq_append.mp (List.takeWhile_prefix (l := rest) (· == '#'))
    refine ⟨line.takeWhile Text.isBlank, _, ?_, ?_, by omega, by omega, htitle⟩
    · rw [← hhashes, List.append_assoc, hrest]
      exact List.takeWhile_append_dropWhile.symm
    · exact List.all_eq_true.mpr fun c hc => List.mem_takeWhile_imp hc

theorem heading?_parts {indent behind : List Char} {depth : Nat}
    (hindent : Text.allBlank indent = true) (hfew : indent.length ≤ 3)
    (hdepth : 1 ≤ depth ∧ depth ≤ 6) (hbehind : behind.head? ≠ some '#') :
    heading? (indent ++ List.replicate depth '#' ++ behind) =
      (titleOf? behind).map (Prod.mk depth) := by
  have hblank : ∀ c ∈ indent, Text.isBlank c = true := List.all_eq_true.mp hindent
  obtain ⟨n, hn⟩ : ∃ n, depth = n + 1 := ⟨depth - 1, by omega⟩
  have htaken : (indent ++ List.replicate depth '#' ++ behind).takeWhile Text.isBlank = indent := by
    rw [List.append_assoc, List.takeWhile_append_of_pos hblank, hn, List.replicate_succ,
      List.cons_append, List.takeWhile_cons_of_neg (by decide), List.append_nil]
  have hrest : (indent ++ List.replicate depth '#' ++ behind).dropWhile Text.isBlank =
      List.replicate depth '#' ++ behind := by
    rw [List.append_assoc, List.dropWhile_append_of_pos hblank, hn, List.replicate_succ,
      List.cons_append, List.dropWhile_cons_of_neg (by decide)]
  have hhashes : (List.replicate depth '#' ++ behind).takeWhile (· == '#') =
      List.replicate depth '#' := by
    rw [List.takeWhile_append_of_pos (by simp)]
    cases behind with
    | nil => simp
    | cons c rest =>
      have hc : c ≠ '#' := by simpa using hbehind
      rw [List.takeWhile_cons_of_neg (by simpa using hc), List.append_nil]
  have hfits : (decide (3 < indent.length) || depth == 0 || decide (6 < depth)) = false := by
    simp
    omega
  have hdrop : (List.replicate depth '#' ++ behind).drop depth = behind := by simp
  simp only [heading?, htaken, hrest, hhashes, List.length_replicate, hfits, hdrop]
  cases titleOf? behind <;> rfl

theorem heading?_sublist {line title : List Char} {depth : Nat}
    (h : heading? line = some (depth, title)) : title.Sublist line := by
  obtain ⟨indent, behind, rfl, -, -, -, htitle⟩ := heading?_eq_some h
  exact (titleOf?_sublist htitle).trans (List.sublist_append_right _ _)

theorem heading?_depth {line title : List Char} {depth : Nat}
    (h : heading? line = some (depth, title)) : 1 ≤ depth ∧ depth ≤ 6 := by
  obtain ⟨-, -, -, -, -, hdepth, -⟩ := heading?_eq_some h
  exact hdepth

theorem marker?_sublist {line rest : List Char} (h : marker? line = some rest) :
    rest.Sublist line := by
  rw [marker?.eq_def] at h
  split at h
  case h_1 | h_2 | h_3 =>
    cases h
    exact List.sublist_cons_self _ _
  case h_4 =>
    split at h
    case h_1 hdrop | h_2 hdrop =>
      cases h
      exact (List.sublist_cons_self _ _).trans (hdrop ▸ List.dropWhile_sublist _)
    case h_3 => cases h

theorem bullet?_sublist {line text : List Char} (h : bullet? line = some text) :
    text.Sublist line := by
  rw [bullet?] at h
  split at h
  next hmarker =>
    split at h
    · cases h
      exact (Text.trim_sublist _).trans ((List.sublist_cons_self _ _).trans
        ((marker?_sublist hmarker).trans (List.dropWhile_sublist _)))
    · cases h
  next => cases h

theorem bullet?_eq_some {line text : List Char} (h : bullet? line = some text) :
    ∃ rest, text = Text.trim rest := by
  rw [bullet?] at h
  split at h
  next c rest _ =>
    split at h
    · cases h
      exact ⟨rest, rfl⟩
    · cases h
  next => cases h

theorem depth_of_heading {l : List Char × Bool} {title : List Char} {depth : Nat}
    (h : Part.heading depth title ∈ partsOf l) : 1 ≤ depth ∧ depth ≤ 6 := by
  rw [partsOf] at h
  split at h
  next d t hheading =>
    cases List.mem_singleton.mp h
    rw [headingOf] at hheading
    split at hheading
    · cases hheading
    · exact heading?_depth hheading
  next =>
    split at h
    · cases h
    · cases List.mem_singleton.mp h

theorem stripped_sublist (l : List Char × Bool) : (stripped l).Sublist l.1 := by
  rw [stripped]
  split
  · exact .refl _
  · split
    next heq => exact heading?_sublist heq
    next heq => exact bullet?_sublist heq
    next => exact Text.trim_sublist _

/-! ### Texts in lines -/

def pieces (t : List Char) : List (List Char) :=
  (Text.splitAt '\n' t).filter fun l => !Text.allBlank l

@[simp] theorem pieces_nil : pieces [] = [] := rfl

theorem pieces_newline (s t : List Char) : pieces (s ++ '\n' :: t) = pieces s ++ pieces t := by
  rw [pieces, Text.splitAt_append, List.filter_append, pieces, pieces]

theorem pieces_line {l : List Char} (h : '\n' ∉ l) :
    pieces l = if Text.allBlank l then [] else [l] := by
  rw [pieces, Text.splitAt_of_notMem h, List.filter_cons, List.filter_nil]
  cases Text.allBlank l <;> rfl

@[simp] theorem pieces_unlines_concat (ls : List (List Char)) (l : List Char) :
    pieces (Text.unlines (ls ++ [l])) = pieces (Text.unlines ls) ++ pieces l := by
  by_cases h : ls = []
  · subst h
    simp [Text.unlines, List.intercalate]
  · rw [Text.unlines_concat h, pieces_newline]

def Block.parts : Block → List Part
  | .heading depth title => [.heading depth title]
  | .paragraph lines | .code lines => (pieces (Text.unlines lines)).map .text
  | .item text => (pieces text).map .text

/-! ### One line -/

def Pending.mark : Pending → Option Char
  | .code mark _ => some mark
  | _ => none

def Pending.parts (p : Pending) : List Part := p.finish.flatMap Block.parts

@[simp] theorem parts_nothing : Pending.nothing.parts = [] := rfl

@[simp] theorem parts_paragraph (ls : List (List Char)) :
    (Pending.paragraph ls).parts = (pieces (Text.unlines ls)).map .text := by
  simp [Pending.parts, Pending.finish, Block.parts]

@[simp] theorem parts_code (mark : Char) (ls : List (List Char)) :
    (Pending.code mark ls).parts = (pieces (Text.unlines ls)).map .text := by
  simp [Pending.parts, Pending.finish, Block.parts]

@[simp] theorem parts_item (t : List Char) : (Pending.item t).parts = (pieces t).map .text := by
  cases t with
  | nil => rfl
  | cons c t => simp [Pending.parts, Pending.finish, Block.parts]

theorem partsOf_text {l : List Char × Bool} (hline : '\n' ∉ l.1) (h : headingOf l = none) :
    partsOf l = (pieces (stripped l)).map .text := by
  have hnewline : '\n' ∉ stripped l := fun hmem => hline ((stripped_sublist l).mem hmem)
  rw [partsOf, h, pieces_line hnewline]
  dsimp only
  split <;> rfl

theorem partsOf_blank {line : List Char} (hheading : heading? line = none)
    (hblank : Text.trim line = []) : partsOf (line, false) = [] := by
  have hstripped := Text.allBlank_of_sublist (stripped_sublist (line, false))
    (Text.allBlank_of_trim_eq_nil hblank)
  simp [partsOf, headingOf, hheading, hstripped]

inductive Classified (line : List Char) : LineClass → Prop
  | fence {mark : Char} (h : fenceMark? (Text.trim line) = some mark) :
      Classified line (.fence mark)
  | heading {depth : Nat} {title : List Char} (hfence : fenceMark? (Text.trim line) = none)
      (h : heading? line = some (depth, title)) : Classified line (.heading depth title)
  | blank (hfence : fenceMark? (Text.trim line) = none) (hheading : heading? line = none)
      (h : Text.trim line = []) : Classified line .blank
  | bullet {text : List Char} (hfence : fenceMark? (Text.trim line) = none)
      (hheading : heading? line = none) (h : bullet? line = some text) :
      Classified line (.bullet text)
  | running (hfence : fenceMark? (Text.trim line) = none) (hheading : heading? line = none)
      (hblank : Text.trim line ≠ []) (h : bullet? line = none) :
      Classified line (.running (Text.trim line) (isIndented line))

theorem classified (line : List Char) : Classified line (classify line) := by
  simp only [classify]
  split
  next h => exact .fence h
  next hfence =>
    split
    next h => exact .heading hfence h
    next hheading =>
      split
      next h => exact .blank hfence hheading (List.isEmpty_iff.mp h)
      next hblank =>
        split
        next h => exact .bullet hfence hheading h
        next h => exact .running hfence hheading (by simpa using hblank) h

/-- What a line outside fenced code completes and begins holds its part behind all others. -/
theorem parts_next (p : Pending) {line : List Char} (hline : '\n' ∉ line) :
    (p.next line).1.flatMap Block.parts ++ (p.next line).2.parts =
      p.parts ++ partsOf (line, inCode none line) := by
  have hfinish : p.finish.flatMap Block.parts = p.parts := rfl
  have hclass := classified line
  rw [Pending.next]
  generalize classify line = c at hclass ⊢
  cases hclass with
  | fence h =>
    have hcode : inCode none line = true := by simp [inCode, h]
    rw [hcode, partsOf_text hline rfl]
    simp [hfinish, stripped]
  | heading hfence h =>
    have hcode : inCode none line = false := by simp [inCode, hfence]
    simp [hcode, hfinish, partsOf, headingOf, h, Block.parts]
  | blank hfence hheading h =>
    have hcode : inCode none line = false := by simp [inCode, hfence]
    rw [hcode, partsOf_blank hheading h]
    simp [hfinish]
  | bullet hfence hheading h =>
    have hcode : inCode none line = false := by simp [inCode, hfence]
    rw [hcode, partsOf_text hline (by simp [headingOf, hheading])]
    simp [hfinish, stripped, hheading, h]
  | running hfence hheading hblank h =>
    have hcode : inCode none line = false := by simp [inCode, hfence]
    have hstripped : stripped (line, false) = Text.trim line := by simp [stripped, hheading, h]
    rw [hcode, partsOf_text hline (by simp [headingOf, hheading]), hstripped]
    cases p with
    | item begun => cases isIndented line <;> simp [hfinish, pieces_newline]
    | paragraph lines => simp
    | _ => simp [hfinish]

theorem mark_next (p : Pending) (line : List Char) :
    (p.next line).2.mark = fenceMark? (Text.trim line) := by
  have hclass := classified line
  rw [Pending.next]
  generalize classify line = c at hclass ⊢
  cases hclass with
  | fence h => rw [h, Pending.mark]
  | running hfence =>
    rw [hfence]
    cases p <;> cases isIndented line <;> rfl
  | heading hfence => exact hfence.symm
  | blank hfence => exact hfence.symm
  | bullet hfence => exact hfence.symm

/-! ### All lines -/

theorem parts_step (p : Pending) {line : List Char} (hline : '\n' ∉ line) :
    (p.step line).1.flatMap Block.parts ++ (p.step line).2.parts =
      p.parts ++ partsOf (line, inCode p.mark line) := by
  cases p with
  | code mark lines =>
    have hparts := partsOf_text (l := (line, true)) hline rfl
    have hcode : inCode (Pending.code mark lines).mark line = true := rfl
    rw [hcode, hparts, Pending.step]
    by_cases hcloses : closesFence mark line = true
    · simp [hcloses, Block.parts, stripped]
    · simp [hcloses, stripped]
  | _ => exact parts_next _ hline

theorem mark_step (p : Pending) (line : List Char) :
    (p.step line).2.mark = fenceAfter p.mark line := by
  cases p with
  | code mark lines =>
    rw [Pending.step, Pending.mark, fenceAfter]
    split <;> rfl
  | _ => exact mark_next _ line

theorem parts_blocksFrom (p : Pending) {lines : List (List Char)} (h : ∀ l ∈ lines, '\n' ∉ l) :
    (blocksFrom p lines).flatMap Block.parts =
      p.parts ++ (fenced p.mark lines).flatMap partsOf := by
  induction lines generalizing p with
  | nil => simp [fenced, Pending.parts]
  | cons line rest ih =>
    rw [blocksFrom_cons, List.flatMap_append, ih _ fun l hl => h l (List.mem_cons_of_mem line hl),
      mark_step, ← List.append_assoc, parts_step p (h line List.mem_cons_self), fenced,
      List.flatMap_cons, List.append_assoc]

/-- The blocks of a document hold what is left of its lines. -/
theorem parts_blocks (document : List Char) : (blocks document).flatMap Block.parts =
    (fenced none (Text.lines document)).flatMap partsOf :=
  parts_blocksFrom .nothing fun _ => Text.notMem_lines

/-- What every step passes on, from the block that is being read to those it completes and the one that
is being read then, holds of all blocks. -/
theorem forall_blocksFrom {P : Block → Prop} {lines : List (List Char)} {p : Pending}
    (hstep : ∀ q : Pending, ∀ line ∈ lines, (∀ b ∈ q.finish, P b) →
      (∀ b ∈ (q.step line).1, P b) ∧ ∀ b ∈ (q.step line).2.finish, P b)
    (hp : ∀ b ∈ p.finish, P b) : ∀ b ∈ blocksFrom p lines, P b := by
  induction lines generalizing p with
  | nil => exact hp
  | cons line rest ih =>
    obtain ⟨hdone, hnext⟩ := hstep p line List.mem_cons_self hp
    rw [blocksFrom_cons]
    intro b hb
    rcases List.mem_append.mp hb with hb | hb
    · exact hdone b hb
    · exact ih (fun q l hl => hstep q l (List.mem_cons_of_mem line hl)) hnext b hb

/-! ### No block is blank -/

def Pending.Filled (p : Pending) : Prop := ∀ b ∈ p.finish, b.parts ≠ []

theorem filled_of_parts {p : Pending} (h : p.parts ≠ []) : p.Filled := by
  cases p with
  | nothing => exact absurd rfl h
  | item t =>
    intro b hb
    cases t with
    | nil => cases hb
    | cons c t =>
      cases List.mem_singleton.mp hb
      simpa [Block.parts] using h
  | _ =>
    intro b hb
    cases List.mem_singleton.mp hb
    simpa [Block.parts] using h

theorem pieces_of_firm {l : List Char} (hline : '\n' ∉ l) (h : Text.Firm l) : pieces l ≠ [] := by
  rw [pieces_line hline, h.not_allBlank]
  simp

theorem pieces_trim {cs : List Char} (hnewline : '\n' ∉ cs) (h : Text.trim cs ≠ []) :
    pieces (Text.trim cs) ≠ [] :=
  pieces_of_firm (fun hmem => hnewline ((Text.trim_sublist cs).mem hmem)) (Text.firm_trim h)

theorem pieces_of_fence {line : List Char} {mark : Char} (hline : '\n' ∉ line)
    (h : fenceMark? (Text.trim line) = some mark) : pieces line ≠ [] := by
  rw [pieces_line hline]
  split
  next hblank =>
    have htrim : Text.allBlank (Text.trim line) = true :=
      Text.allBlank_of_sublist (Text.trim_sublist line) hblank
    rw [Text.allBlank_trim, List.isEmpty_iff] at htrim
    rw [htrim] at h
    cases h
  next => simp

theorem pieces_of_bullet {line text : List Char} (hline : '\n' ∉ line)
    (h : bullet? line = some text) (htext : text ≠ []) : pieces text ≠ [] := by
  have hnot : '\n' ∉ text := fun hmem => hline ((bullet?_sublist h).mem hmem)
  obtain ⟨rest, rfl⟩ := bullet?_eq_some h
  exact pieces_of_firm hnot (Text.firm_trim htext)

theorem filled_next {p : Pending} {line : List Char} (hline : '\n' ∉ line) (hp : p.Filled) :
    (∀ b ∈ (p.next line).1, b.parts ≠ []) ∧ (p.next line).2.Filled := by
  have hclass := classified line
  rw [Pending.next]
  generalize classify line = c at hclass ⊢
  cases hclass with
  | fence h =>
    have hshown := pieces_of_fence hline h
    exact ⟨hp, filled_of_parts (by simpa using hshown)⟩
  | heading =>
    refine ⟨fun b hb => ?_, by simp [Pending.Filled, Pending.finish]⟩
    rcases List.mem_append.mp hb with hb | hb
    · exact hp b hb
    · cases List.mem_singleton.mp hb
      simp [Block.parts]
  | blank => exact ⟨hp, by simp [Pending.Filled, Pending.finish]⟩
  | @bullet text _ _ h =>
    refine ⟨hp, ?_⟩
    by_cases htext : text = []
    · subst htext
      simp [Pending.Filled, Pending.finish]
    · have hshown := pieces_of_bullet hline h htext
      exact filled_of_parts (by simpa using hshown)
  | running _ _ hblank =>
    have hshown := pieces_trim hline hblank
    have hparagraph : (Pending.paragraph [Text.trim line]).Filled :=
      filled_of_parts (by simpa using hshown)
    cases p with
    | item begun =>
      cases isIndented line with
      | true => exact ⟨by simp, filled_of_parts (by simp [pieces_newline, hshown])⟩
      | false => exact ⟨hp, hparagraph⟩
    | paragraph lines => exact ⟨by simp, filled_of_parts (by simp [hshown])⟩
    | _ => exact ⟨hp, hparagraph⟩

theorem filled_step {p : Pending} {line : List Char} (hline : '\n' ∉ line) (hp : p.Filled) :
    (∀ b ∈ (p.step line).1, b.parts ≠ []) ∧ (p.step line).2.Filled := by
  cases p with
  | code mark lines =>
    have hlines : (Pending.code mark (lines ++ [line])).Filled := by
      have hbegun := hp _ List.mem_cons_self
      refine filled_of_parts ?_
      simp_all [Block.parts]
    rw [Pending.step]
    split
    · exact ⟨hlines, by simp [Pending.Filled, Pending.finish]⟩
    · exact ⟨by simp, hlines⟩
  | _ => exact filled_next hline hp

theorem filled_blocks (document : List Char) : ∀ b ∈ blocks document, b.parts ≠ [] :=
  forall_blocksFrom (fun _ _ hline hq => filled_step (Text.notMem_lines hline) hq)
    (by simp [Pending.finish])

end Markdown
end PromptWeave
