import PromptWeave.Proofs.Render.Presence
import PromptWeave.Proofs.Render.Tags

/-! Sections with their bodies set in.
A body is taken apart into lines and put together again inside each pair of tags. As long as no
carriage return is swallowed on the way, every line stays the line that it is, behind two blanks for
each pair of tags around it, and no line is added or lost. -/
namespace PromptWeave

namespace SectionItem

mutual
def strings : SectionItem → List String
  | .leaf l => l.text :: l.title.toList
  | .branch head items => head.title.toList ++ stringsAll items
def stringsAll : List SectionItem → List String
  | [] => []
  | i :: is => strings i ++ stringsAll is
end

end SectionItem

def Section.strings (s : Section) : List String := s.toItem.strings

namespace Render

/-! ### Lines that are set in -/

/-- A line behind pairs of blanks; in front of an empty line there are none. -/
def SetIn (line line' : List Char) : Prop :=
  ∃ n, line' = List.replicate (2 * n) ' ' ++ line ∧ (line = [] → n = 0)

@[refl] theorem SetIn.refl (line : List Char) : SetIn line line := ⟨0, rfl, fun _ => rfl⟩

theorem SetIn.eq_nil_iff {line line' : List Char} (h : SetIn line line') :
    line = [] ↔ line' = [] := by
  obtain ⟨n, rfl, hn⟩ := h
  constructor
  · intro he
    simp [he, hn he]
  · intro he
    exact (List.append_eq_nil_iff.mp he).2

theorem SetIn.setIn {line line' : List Char} (h : SetIn line line') : SetIn line (setIn line') := by
  by_cases hline : line = []
  · rw [hline, setIn_eq_nil.mpr (h.eq_nil_iff.mp hline)]
  · have hline' : line' ≠ [] := fun he => hline (h.eq_nil_iff.mpr he)
    obtain ⟨n, rfl, -⟩ := h
    refine ⟨n + 1, ?_, fun he => absurd he hline⟩
    simp [Render.setIn, hline, Nat.mul_succ, List.replicate_succ]

def Indented (t t' : List Char) : Prop :=
  List.Forall₂ SetIn (Text.splitAt '\n' t) (Text.splitAt '\n' t')

@[refl] theorem Indented.refl (t : List Char) : Indented t t :=
  List.forall₂_same.mpr fun line _ => SetIn.refl line

theorem Indented.newline {t t' u u' : List Char} (ht : Indented t t') (hu : Indented u u') :
    Indented (t ++ '\n' :: u) (t' ++ '\n' :: u') := by
  rw [Indented, Text.splitAt_append, Text.splitAt_append]
  exact List.rel_append ht hu

theorem Indented.blankLine {t t' u u' : List Char} (ht : Indented t t') (hu : Indented u u') :
    Indented (t ++ blankLine ++ u) (t' ++ blankLine ++ u') := by
  have hempty : Indented ([] ++ '\n' :: u) ([] ++ '\n' :: u') := (Indented.refl []).newline hu
  simpa [Render.blankLine] using ht.newline hempty

theorem Indented.joinParts {ps ps' : List (List Char)} (h : List.Forall₂ Indented ps ps') :
    Indented (joinParts ps) (joinParts ps') := by
  induction h with
  | nil => rfl
  | @cons p p' ps ps' hp hps ih =>
    cases hps with
    | nil => simpa using hp
    | cons hq hqs =>
      rw [joinParts_cons _ (List.cons_ne_nil _ _), joinParts_cons _ (List.cons_ne_nil _ _)]
      exact hp.blankLine ih

theorem Indented.eq_nil_iff {t t' : List Char} (h : Indented t t') : t = [] ↔ t' = [] := by
  have hempty : ∀ {u : List Char}, Text.splitAt '\n' u = [[]] → u = [] := fun {u} hu => by
    rw [← Text.unlines_splitAt u, hu, Text.unlines_singleton]
  constructor
  · rintro rfl
    have hlines : List.Forall₂ SetIn [[]] (Text.splitAt '\n' t') := h
    obtain ⟨line, rest, hline, hrest, hsplit⟩ := List.forall₂_cons_left_iff.mp hlines
    rw [List.forall₂_nil_left_iff.mp hrest, hline.eq_nil_iff.mp rfl] at hsplit
    exact hempty hsplit
  · rintro rfl
    have hlines : List.Forall₂ SetIn (Text.splitAt '\n' t) [[]] := h
    obtain ⟨line, rest, hline, hrest, hsplit⟩ := List.forall₂_cons_right_iff.mp hlines
    rw [List.forall₂_nil_right_iff.mp hrest, hline.eq_nil_iff.mpr rfl] at hsplit
    exact hempty hsplit

/-! ### Texts that are taken apart line by line -/

/-- A text that holds no carriage return and does not end in a blank. -/
structure Solid (t : List Char) : Prop where
  noReturn : '\r' ∉ t
  ends : ∃ front c, t = front ++ [c] ∧ Text.isBlank c = false

theorem Solid.prepend {t : List Char} (h : Solid t) {u : List Char} (hu : '\r' ∉ u) :
    Solid (u ++ t) where
  noReturn := by simp [hu, h.noReturn]
  ends := by
    obtain ⟨front, c, rfl, hc⟩ := h.ends
    exact ⟨u ++ front, c, by rw [List.append_assoc], hc⟩

theorem Solid.lines {t : List Char} (h : Solid t) : Text.lines t = Text.splitAt '\n' t := by
  obtain ⟨front, c, rfl, hc⟩ := h.ends
  refine Text.lines_eq_splitAt (by simp) h.noReturn ?_
  rw [List.getLast?_concat]
  rintro ⟨⟩
  cases hc

theorem Solid.indent {t : List Char} (h : Solid t) :
    indent t = Text.unlines ((Text.splitAt '\n' t).map setIn) := by
  rw [Render.indent, h.lines]
  rfl

theorem Solid.noReturn_indent {t : List Char} (h : Solid t) : '\r' ∉ Render.indent t := by
  rw [h.indent]
  intro hmem
  obtain ⟨line, hline, hreturn⟩ := (Text.mem_unlines hmem).resolve_left (by decide)
  obtain ⟨l, hl, rfl⟩ := List.mem_map.mp hline
  refine h.noReturn ((Text.sublist_of_mem_splitAt hl).mem ?_)
  cases l <;> simp_all [setIn]

/-- Setting a text in once more adds a pair of blanks to each line. -/
theorem Indented.indent {t t' : List Char} (h : Indented t t') (hsolid : Solid t') :
    Indented t (Render.indent t') := by
  have hlines : Text.splitAt '\n' (Render.indent t') = (Text.splitAt '\n' t').map setIn := by
    rw [hsolid.indent]
    refine Text.splitAt_unlines (by simpa using Text.splitAt_ne_nil '\n' t') ?_
    refine List.forall_mem_map.mpr fun line hline => ?_
    have hbreak := Text.notMem_splitAt hline
    cases line <;> simp_all [setIn]
  rw [Indented, hlines, List.forall₂_map_right_iff]
  exact h.imp fun _ _ hline => hline.setIn

theorem solid_joinParts {ps : List (List Char)} (hne : ps ≠ []) (h : ∀ p ∈ ps, Solid p) :
    Solid (joinParts ps) := by
  induction ps with
  | nil => exact absurd rfl hne
  | cons p ps ih =>
    obtain ⟨hp, hps⟩ := List.forall_mem_cons.mp h
    by_cases hnil : ps = []
    · simpa [hnil] using hp
    · rw [joinParts_cons p hnil]
      exact (ih hnil hps).prepend (by simp [hp.noReturn, blankLine])

/-! ### Titles around a body -/

def framed (title inner : List Char) : List Char :=
  if inner.isEmpty then openTag title ++ '\n' :: closeTag title
  else openTag title ++ '\n' :: inner ++ '\n' :: closeTag title

theorem wrapTag_eq (o : FormatOptions) (title body : List Char) :
    wrapTag o title body = framed title (if o.indentation then indent body else body) := rfl

theorem Indented.framed (title : List Char) {inner inner' : List Char} (h : Indented inner inner') :
    Indented (framed title inner) (framed title inner') := by
  by_cases hnil : inner = []
  · rw [hnil, h.eq_nil_iff.mp hnil]
  · have hnil' : inner' ≠ [] := fun he => hnil (h.eq_nil_iff.mpr he)
    rw [Render.framed, Render.framed, if_neg (by simpa using hnil), if_neg (by simpa using hnil')]
    exact ((Indented.refl (openTag title)).newline h).newline (.refl (closeTag title))

theorem Indented.wrapMarkdown (level : Nat) (title : List Char) {body body' : List Char}
    (h : Indented body body') :
    Indented (wrapMarkdown level title body) (wrapMarkdown level title body') := by
  by_cases hnil : body = []
  · rw [hnil, h.eq_nil_iff.mp hnil]
  · have hnil' : body' ≠ [] := fun he => hnil (h.eq_nil_iff.mpr he)
    rw [Render.wrapMarkdown, Render.wrapMarkdown, if_neg (by simpa using hnil),
      if_neg (by simpa using hnil')]
    exact (Indented.refl (heading level title)).blankLine h

theorem solid_framed {title inner : List Char} (htitle : '\r' ∉ title) (hinner : '\r' ∉ inner) :
    Solid (framed title inner) := by
  have hclose : Solid (closeTag title) :=
    ⟨by simp [closeTag, htitle], ⟨'<' :: '/' :: title, '>', rfl, by decide⟩⟩
  have hopen : '\r' ∉ openTag title := by simp [openTag, htitle]
  have hnewline : Solid ('\n' :: closeTag title) := hclose.prepend (by decide : '\r' ∉ ['\n'])
  rw [framed]
  split
  · exact hnewline.prepend hopen
  · exact hnewline.prepend (by simp [hopen, hinner])

theorem solid_wrapMarkdown (level : Nat) {title body : List Char} (htitle : '\r' ∉ title)
    (h : Solid body) : Solid (wrapMarkdown level title body) := by
  obtain ⟨front, c, hbody, -⟩ := h.ends
  rw [wrapMarkdown, if_neg (by simp [hbody])]
  exact h.prepend (by simp [heading, hashes, htitle, blankLine, List.mem_replicate])

theorem solid_wrap (o : FormatOptions) (style : SectionStyle) (level : Nat) {title : Option String}
    (htitle : ∀ t ∈ title, '\r' ∉ t.toList) {body : List Char} (h : Solid body) :
    Solid (wrap o style level title body) := by
  cases title with
  | none => exact h
  | some t =>
    have ht : '\r' ∉ t.toList := htitle t rfl
    cases style with
    | tag =>
      have hinner : '\r' ∉ (if o.indentation then indent body else body) := by
        split
        · exact h.noReturn_indent
        · exact h.noReturn
      rw [wrap, wrapTitled, wrapTag_eq]
      exact solid_framed ht hinner
    | markdown => exact solid_wrapMarkdown level ht h

theorem wrap_indented (o : FormatOptions) (style : SectionStyle) (level : Nat)
    (title : Option String) {body body' : List Char} (h : Indented body body')
    (hsolid : body' ≠ [] → Solid body') :
    Indented (wrap { o with indentation := false } style level title body)
      (wrap { o with indentation := true } style level title body') := by
  cases title with
  | none => exact h
  | some t =>
    cases style with
    | tag =>
      have hinner : Indented body (indent body') := by
        -- an empty body is not solid, and it has no line to set in
        by_cases hnil : body' = []
        · rw [hnil] at h ⊢
          exact h
        · exact h.indent (hsolid hnil)
      rw [wrap, wrap, wrapTitled, wrapTitled, wrapTag_eq, wrapTag_eq]
      exact hinner.framed t.toList
    | markdown => exact h.wrapMarkdown level t.toList

/-! ### Sections -/

def NoReturns (strings : List String) : Prop := ∀ t ∈ strings, '\r' ∉ t.toList

instance (strings : List String) : Decidable (NoReturns strings) :=
  inferInstanceAs (Decidable (∀ t ∈ strings, _))

theorem noReturns_append {as bs : List String} :
    NoReturns (as ++ bs) ↔ NoReturns as ∧ NoReturns bs :=
  List.forall_mem_append

theorem NoReturns.title {title : Option String} (h : NoReturns title.toList) :
    ∀ t ∈ title, '\r' ∉ t.toList :=
  fun t ht => h t (Option.mem_toList.mpr ht)

theorem solid_trim {t : List Char} (hreturn : '\r' ∉ t) (h : Text.trim t ≠ []) :
    Solid (Text.trim t) where
  noReturn hmem := hreturn ((Text.trim_sublist t).mem hmem)
  ends := (Text.firm_trim h).last

theorem solid_leaf (o : FormatOptions) (level : Nat) {l : Leaf}
    (h : NoReturns (SectionItem.leaf l).strings) : ∀ part ∈ leaf o level l, Solid part := by
  obtain ⟨htext, htitle⟩ := List.forall_mem_cons.mp h
  intro part hpart
  rw [leaf] at hpart
  split at hpart
  · cases hpart
  next hbody =>
    cases hpart
    exact solid_wrap o _ level (NoReturns.title htitle) (solid_trim htext (by simpa using hbody))

theorem solid_parts (o : FormatOptions) (items : List SectionItem) : ∀ level,
    NoReturns (SectionItem.stringsAll items) → ∀ part ∈ parts o level items, Solid part := by
  induction items using SectionItem.items_induction with
  | nil => simp [parts]
  | leaf l is ih =>
    intro level h
    obtain ⟨hl, his⟩ := noReturns_append.mp h
    rw [parts_cons, List.forall_mem_append]
    exact ⟨fun part hpart => solid_leaf o level hl part (Option.mem_toList.mp hpart), ih level his⟩
  | branch head inner is ihinner ih =>
    intro level h
    obtain ⟨hi, his⟩ := noReturns_append.mp h
    obtain ⟨htitle, hinner⟩ := noReturns_append.mp hi
    rw [parts_cons, List.forall_mem_append, item]
    refine ⟨fun part hpart => ?_, ih level his⟩
    split at hpart
    next hcontent =>
      cases List.mem_singleton.mp hpart
      have hne : parts o (inside head.title level) inner ≠ [] := by
        simp [(parts_shown inner _).1, hcontent]
      exact solid_wrap o _ level (NoReturns.title htitle)
        (solid_joinParts hne (ihinner _ hinner))
    next => cases hpart

theorem solid_body (o : FormatOptions) (level : Nat) {s : Section}
    (h : NoReturns (SectionItem.stringsAll s.items)) (hne : body o level s ≠ []) :
    Solid (body o level s) := by
  refine solid_joinParts (fun he => hne ?_) (solid_parts o s.items level h)
  rw [body, he, joinParts_nil]

theorem leaf_indented (o : FormatOptions) (level : Nat) {l : Leaf}
    (h : NoReturns (SectionItem.leaf l).strings) :
    List.Forall₂ Indented (leaf { o with indentation := false } level l).toList
      (leaf { o with indentation := true } level l).toList := by
  obtain ⟨htext, -⟩ := List.forall_mem_cons.mp h
  rw [leaf, leaf]
  split
  · exact .nil
  · exact .cons (wrap_indented o _ level l.title (.refl _) (solid_trim htext)) .nil

/-- The same items make parts with and without indentation, and each part is the other set in. -/
theorem parts_indented (o : FormatOptions) (items : List SectionItem) : ∀ level,
    NoReturns (SectionItem.stringsAll items) →
      List.Forall₂ Indented (parts { o with indentation := false } level items)
        (parts { o with indentation := true } level items) := by
  induction items using SectionItem.items_induction with
  | nil => exact fun _ _ => .nil
  | leaf l is ih =>
    intro level h
    obtain ⟨hl, his⟩ := noReturns_append.mp h
    rw [parts_cons, parts_cons]
    exact List.rel_append (leaf_indented o level hl) (ih level his)
  | branch head inner is ihinner ih =>
    intro level h
    obtain ⟨hi, his⟩ := noReturns_append.mp h
    obtain ⟨-, hinner⟩ := noReturns_append.mp hi
    rw [parts_cons, parts_cons]
    refine List.rel_append ?_ (ih level his)
    rw [item, item]
    split
    · have hbody := Indented.joinParts (ihinner (inside head.title level) hinner)
      refine .cons (wrap_indented o _ level head.title hbody fun hne => ?_) .nil
      exact solid_body _ _ (s := ⟨head, inner⟩) hinner hne
    · exact .nil

theorem body_indented (o : FormatOptions) (level : Nat) {s : Section}
    (h : NoReturns (SectionItem.stringsAll s.items)) :
    Indented (body { o with indentation := false } level s)
      (body { o with indentation := true } level s) :=
  .joinParts (parts_indented o s.items level h)

/-- With indentation a section and an area are written as without it, each line behind pairs of
blanks. -/
theorem indentation_sets_in (o : FormatOptions) {s : Section} (h : NoReturns s.strings) :
    (∀ level, Indented (sectionAt { o with indentation := false } level s)
      (sectionAt { o with indentation := true } level s)) ∧
    ∀ a, Option.Rel Indented (area { o with indentation := false } a s)
      (area { o with indentation := true } a s) := by
  have hitems : NoReturns (SectionItem.stringsAll s.items) := (noReturns_append.mp h).2
  refine ⟨fun level => ?_, fun a => ?_⟩
  · exact wrap_indented o _ level _ (body_indented o _ hitems) (solid_body _ _ hitems)
  · rw [area, area]
    split
    · refine .some ?_
      split
      · exact body_indented o 1 hitems
      · exact wrap_indented o (o.styleFor a) 1 (some _) (body_indented o 2 hitems)
          (solid_body _ 2 hitems)
    · exact .none

/-- A section in another whose title takes two lines, with an empty line in its text. -/
def twoLineNotes : Section :=
  ⟨⟨some "Two\nlines", .context, none, none, none⟩,
    [.branch ⟨some "Inner", .context, none, none, none⟩
      [.leaf (Leaf.ofText .context "first\n\nlast")]]⟩

example : renderSection { tagOptions with indentation := true } twoLineNotes =
    "<Two\nlines>\n  <Inner>\n    first\n\n    last\n  </Inner>\n</Two\nlines>" := by
  decide +kernel

theorem indentation_sets_in_twoLineNotes : NoReturns twoLineNotes.strings ∧
    Indented (sectionAt { tagOptions with indentation := false } 1 twoLineNotes)
      (sectionAt { tagOptions with indentation := true } 1 twoLineNotes) := by
  have hreturns : NoReturns twoLineNotes.strings := by decide
  exact ⟨hreturns, (indentation_sets_in tagOptions hreturns).1 1⟩

end Render
end PromptWeave
