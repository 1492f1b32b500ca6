import PromptWeave.Proofs.Markdown.Stack
import PromptWeave.Proofs.Markdown.Trimmed
import PromptWeave.Proofs.Render.Preorder

/-! Headings in front of all else.
Such a heading is cut off in one place, and in another the parser opens a section with it. Both look
at the first line that is not blank and find the same title, and the section comes first in the
parsed tree. -/
namespace PromptWeave

namespace Text

theorem all_allBlank_lines (cs : List Char) : (lines cs).all allBlank = allBlank cs := by
  fun_induction lines cs with
  | case1 => rfl
  | case2 rest ih => simpa [allBlank, isBlank_newline] using ih
  | case3 rest ih =>
    have hreturn : isBlank '\r' = true := by decide
    simpa [allBlank, isBlank_newline, hreturn] using ih
  | case4 c rest _ _ hrest ih =>
    rw [hrest, List.all_nil] at ih
    simp only [allBlank, List.all_cons, List.all_nil, Bool.and_true] at ih ⊢
    rw [← ih, Bool.and_true]
  | case5 c rest _ _ line more hrest ih =>
    rw [hrest] at ih
    simp only [allBlank, List.all_cons] at ih ⊢
    rw [Bool.and_assoc, ih]

end Text

namespace Markdown

/-! ### Reading line by line -/

/-- How far a document is read: the sections that are open and what is being read. -/
structure Progress where
  opened : Opened
  pending : Pending

namespace Progress

def start (kind : Kind) : Progress := ⟨.document (Section.empty kind), .nothing⟩

def next (o : Options) (r : Progress) (line : List Char) : Progress :=
  ⟨(r.pending.step line).1.foldl (Opened.put o) r.opened, (r.pending.step line).2⟩

def after (o : Options) (r : Progress) (lines : List (List Char)) : Progress :=
  lines.foldl (next o) r

end Progress

/-- The parser reads the lines one after the other. -/
theorem readFrom_append (o : Options) (r : Progress) (before rest : List (List Char)) :
    readFrom o r.opened r.pending (before ++ rest) =
      readFrom o (r.after o before).opened (r.after o before).pending rest := by
  induction before generalizing r with
  | nil => rfl
  | cons line before ih => exact ih (r.next o line)

variable {kind : Kind}

theorem implicitRoot_parse_after {document : String} {before rest : List (List Char)}
    (h : Text.lines document.toList = before ++ rest) :
    implicitRoot (parse (.plain kind) document) =
      readFrom (.plain kind) ((Progress.start kind).after (.plain kind) before).opened
        ((Progress.start kind).after (.plain kind) before).pending rest := by
  have hneutral : (Progress.start kind).opened.AllNeutral (Options.plain kind).kind :=
    ⟨rfl, rfl, rfl⟩
  rw [implicitRoot_parse, ← readFrom_append, ← h, readFrom_eq _ hneutral]
  rfl

/-! ### One line -/

theorem heading?_of_allBlank {line : List Char} (h : Text.allBlank line = true) :
    heading? line = none := by
  have hnone : line.dropWhile Text.isBlank = [] :=
    List.dropWhile_eq_nil_iff.mpr (List.all_eq_true.mp h)
  simp [heading?, hnone]

theorem fenceMark?_of_heading {line title : List Char} {depth : Nat}
    (h : heading? line = some (depth, title)) : fenceMark? (Text.trim line) = none := by
  obtain ⟨indent, behind, rfl, hindent, -, hdepth, -⟩ := heading?_eq_some h
  obtain ⟨n, rfl⟩ : ∃ n, depth = n + 1 := ⟨depth - 1, by omega⟩
  have hhash : Text.isBlank '#' = false := by decide
  rw [List.append_assoc, List.replicate_succ, List.cons_append, Text.trim, Text.trimStart,
    List.dropWhile_append_of_pos (List.all_eq_true.mp hindent),
    List.dropWhile_cons_of_neg (by simp [hhash]), Text.trimEnd,
    Text.dropLastWhile_cons_of_neg _ hhash]
  rfl

theorem classify_of_heading {line title : List Char} {depth : Nat}
    (h : heading? line = some (depth, title)) : classify line = .heading depth title := by
  simp only [classify, fenceMark?_of_heading h, h]

theorem next_blank (o : Options) {line : List Char} (h : Text.allBlank line = true) :
    (Progress.start kind).next o line = Progress.start kind := by
  have htrim : Text.trim line = [] := by
    rw [Text.allBlank_eq_isEmpty_trim] at h
    exact List.isEmpty_iff.mp h
  have hclass : classify line = .blank := by
    simp [classify, htrim, heading?_of_allBlank h, fenceMark?]
  simp [Progress.next, Progress.start, Pending.step, Pending.next, hclass, Pending.finish]

theorem after_blank (o : Options) {before : List (List Char)}
    (h : ∀ l ∈ before, Text.allBlank l = true) :
    (Progress.start kind).after o before = Progress.start kind := by
  induction before with
  | nil => rfl
  | cons line before ih =>
    obtain ⟨hline, hbefore⟩ := List.forall_mem_cons.mp h
    rw [Progress.after, List.foldl_cons, next_blank o hline]
    exact ih hbefore

theorem next_heading {line title : List Char} {depth : Nat}
    (h : heading? line = some (depth, title)) :
    (Progress.start kind).next (.plain kind) line =
      ⟨.inside depth (.titled kind (String.ofList title)) (.document (Section.empty kind)),
        .nothing⟩ := by
  simp [Progress.next, Progress.start, Pending.step, Pending.next, classify_of_heading h,
    Pending.finish, Opened.put, Options.plain, substitute_empty, Opened.closeTo]

theorem next_other (kind : Kind) {line : List Char} (hblank : Text.allBlank line = false)
    (h : heading? line = none) : ∃ p ≠ Pending.nothing,
    (Progress.start kind).next (.plain kind) line = ⟨.document (Section.empty kind), p⟩ := by
  have htrim : Text.trim line ≠ [] := by
    intro he
    rw [Text.allBlank_eq_isEmpty_trim, he] at hblank
    cases hblank
  have hclass := classified line
  simp only [Progress.next, Progress.start, Pending.step, Pending.next]
  generalize classify line = c at hclass
  cases hclass with
  | @fence mark _ => exact ⟨.code mark [line], by simp, rfl⟩
  | heading _ hheading => cases h.symm.trans hheading
  | blank _ _ he => exact absurd he htrim
  | @bullet text _ _ _ => exact ⟨.item text, by simp, rfl⟩
  | running _ _ _ _ => exact ⟨.paragraph [Text.trim line], by simp, rfl⟩

/-! ### The first line -/

/-- The first line of a text that is not blank, and the blank ones in front of it. -/
structure FirstLine (text : String) (before : List (List Char)) (line : List Char) : Prop where
  among : before ++ [line] <+: Text.lines text.toList
  blank : ∀ l ∈ before, Text.allBlank l = true
  shown : Text.allBlank line = false

/-- On the first line that is not blank the parser opens a section with the title. -/
def OpensFirst (kind : Kind) (text title : String) : Prop :=
  ∃ before line depth, FirstLine text before line ∧
    (Progress.start kind).after (.plain kind) (before ++ [line]) =
      ⟨.inside depth (.titled kind title) (.document (Section.empty kind)), .nothing⟩

/-- On that line the parser begins a paragraph, a list item or fenced code. -/
def BeginsFirst (kind : Kind) (text : String) : Prop :=
  ∃ before line, FirstLine text before line ∧ ∃ p ≠ Pending.nothing,
    (Progress.start kind).after (.plain kind) (before ++ [line]) =
      ⟨.document (Section.empty kind), p⟩

theorem FirstLine.after {text : String} {before : List (List Char)} {line : List Char}
    (h : FirstLine text before line) :
    (Progress.start kind).after (.plain kind) (before ++ [line]) =
      (Progress.start kind).next (.plain kind) line := by
  rw [Progress.after, List.foldl_concat, ← Progress.after, after_blank _ h.blank]

theorem blank_or_firstLine (text : String) :
    blank text = true ∨ ∃ before line, FirstLine text before line := by
  have hsplit := List.takeWhile_append_dropWhile (p := Text.allBlank)
    (l := Text.lines text.toList)
  have hhead := List.head?_dropWhile_not Text.allBlank (Text.lines text.toList)
  cases hdrop : (Text.lines text.toList).dropWhile Text.allBlank with
  | nil =>
    left
    rw [blank, ← Text.all_allBlank_lines, List.all_eq_true]
    exact List.dropWhile_eq_nil_iff.mp hdrop
  | cons line rest =>
    rw [hdrop] at hsplit hhead
    refine Or.inr ⟨(Text.lines text.toList).takeWhile Text.allBlank, line, ⟨rest, ?_⟩,
      fun l => List.mem_takeWhile_imp, by simpa using hhead⟩
    rw [List.append_assoc, List.singleton_append, hsplit]

/-! ### What is cut off -/

theorem splitLeadingHeading_blank {text : String} (h : blank text = true) :
    splitLeadingHeading text = (none, trimmed text) := by
  have htrim : Text.trim text.toList = [] := by
    rw [blank, Text.allBlank_eq_isEmpty_trim] at h
    exact List.isEmpty_iff.mp h
  rw [blank, ← Text.all_allBlank_lines, List.all_eq_true] at h
  rw [splitLeadingHeading, List.dropWhile_eq_nil_iff.mpr h, trimmed, htrim]

theorem FirstLine.dropWhile {text : String} {before : List (List Char)} {line : List Char}
    (h : FirstLine text before line) :
    ∃ rest, (Text.lines text.toList).dropWhile Text.allBlank = line :: rest := by
  obtain ⟨rest, hlines⟩ := h.among
  refine ⟨rest, ?_⟩
  rw [← hlines, List.append_assoc, List.dropWhile_append_of_pos h.blank, List.singleton_append,
    List.dropWhile_cons_of_neg (by simp [h.shown])]

theorem FirstLine.split_heading {text : String} {before : List (List Char)}
    {line title : List Char} {depth : Nat} (h : FirstLine text before line)
    (hheading : heading? line = some (depth, title)) :
    (splitLeadingHeading text).1 = some (String.ofList title) := by
  obtain ⟨rest, hdrop⟩ := h.dropWhile
  simp only [splitLeadingHeading, hdrop, hheading]

theorem FirstLine.split_other {text : String} {before : List (List Char)} {line : List Char}
    (h : FirstLine text before line) (hheading : heading? line = none) :
    splitLeadingHeading text = (none, trimmed text) := by
  obtain ⟨rest, hdrop⟩ := h.dropWhile
  simp only [splitLeadingHeading, hdrop, hheading]

theorem split_title_iff (kind : Kind) (text title : String) :
    (splitLeadingHeading text).1 = some title ↔ OpensFirst kind text title := by
  constructor
  · intro h
    rcases blank_or_firstLine text with hblank | ⟨before, line, hfirst⟩
    · rw [splitLeadingHeading_blank hblank] at h
      cases h
    · cases hheading : heading? line with
      | none =>
        rw [hfirst.split_other hheading] at h
        cases h
      | some found =>
        rw [hfirst.split_heading hheading] at h
        cases h
        exact ⟨before, line, found.1, hfirst, by rw [hfirst.after, next_heading hheading]⟩
  · rintro ⟨before, line, depth, hfirst, hafter⟩
    rw [hfirst.after] at hafter
    cases hheading : heading? line with
    | none =>
      obtain ⟨p, -, hother⟩ := next_other kind hfirst.shown hheading
      cases hother.symm.trans hafter
    | some found =>
      rw [hfirst.split_heading hheading]
      cases (next_heading hheading).symm.trans hafter
      rfl

theorem split_none_iff (kind : Kind) (text : String) :
    splitLeadingHeading text = (none, trimmed text) ↔
      blank text = true ∨ BeginsFirst kind text := by
  constructor
  · intro h
    rcases blank_or_firstLine text with hblank | ⟨before, line, hfirst⟩
    · exact Or.inl hblank
    · right
      cases hheading : heading? line with
      | none =>
        obtain ⟨p, hp, hother⟩ := next_other kind hfirst.shown hheading
        exact ⟨before, line, hfirst, p, hp, hfirst.after.trans hother⟩
      | some found =>
        have htitle := hfirst.split_heading hheading
        rw [h] at htitle
        cases htitle
  · rintro (hblank | ⟨before, line, hfirst, p, hp, hafter⟩)
    · exact splitLeadingHeading_blank hblank
    · refine hfirst.split_other ?_
      by_contra hheading
      obtain ⟨found, hfound⟩ := Option.ne_none_iff_exists'.mp hheading
      rw [hfirst.after, next_heading hfound] at hafter
      cases hafter

/-! ### The tree -/

/-- The section that the parser opens first comes first in the parsed tree. -/
theorem OpensFirst.first {text title : String} (h : OpensFirst kind text title) :
    ∃ head items later, head.title = some title ∧
      Render.visitsAll [] (implicitRoot (parse (.plain kind) text)).items =
        ⟨[], .branch head items⟩ :: later := by
  obtain ⟨before, line, depth, ⟨⟨rest, hlines⟩, -, -⟩, hafter⟩ := h
  have hneutral : (Opened.inside depth (.titled kind title)
      (.document (Section.empty kind))).AllNeutral (Options.plain kind).kind :=
    ⟨⟨rfl, rfl, rfl⟩, rfl, rfl, rfl⟩
  rw [implicitRoot_parse_after hlines.symm, hafter, readFrom_eq _ hneutral]
  exact ⟨_, _, _, rfl, rfl⟩

/-- The two ways to find a heading in front of all else agree: the title that is cut off is that of
the section which the parser opens on the first line that is not blank. It comes first in the parsed
tree. Where there is no such line, or the parser begins something else there, nothing is cut off. -/
theorem splitLeadingHeading_agrees (kind : Kind) (text : String) :
    (∀ title, (splitLeadingHeading text).1 = some title ↔ OpensFirst kind text title) ∧
    (∀ title, (splitLeadingHeading text).1 = some title → ∃ head items later,
      head.title = some title ∧
      Render.visitsAll [] (implicitRoot (parse (.plain kind) text)).items =
        ⟨[], .branch head items⟩ :: later) ∧
    (splitLeadingHeading text = (none, trimmed text) ↔
      blank text = true ∨ BeginsFirst kind text) := by
  refine ⟨split_title_iff kind text, fun title htitle => ?_, split_none_iff kind text⟩
  exact ((split_title_iff kind text title).mp htitle).first

/-- A list item without text leaves nothing in the tree; still no heading behind it is cut off. -/
example : splitLeadingHeading "- \n# Rules\n" = (none, "- \n# Rules") := by decide

end Markdown
end PromptWeave
