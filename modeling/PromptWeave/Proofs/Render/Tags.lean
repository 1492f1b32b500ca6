import PromptWeave.Proofs.Lists
import PromptWeave.Proofs.Render.Chunks

/-! Tags around whole lines.
In the tag style a section is written as its opening tag, the lines of its items with an empty line
between neighbours, and its closing tag. If no line of a text begins like a tag, each line shows
what it is, and the text determines the titles, the texts and the nesting of the section. -/
namespace PromptWeave

namespace SectionItem

inductive SameTree : List SectionItem → List SectionItem → Prop
  | nil : SameTree [] []
  | leaf {l m : Leaf} {is js : List SectionItem} (htitle : l.title = m.title)
      (htext : l.text = m.text) (h : SameTree is js) : SameTree (.leaf l :: is) (.leaf m :: js)
  | branch {head other : SectionHead} {xs ys is js : List SectionItem}
      (htitle : head.title = other.title) (hinner : SameTree xs ys) (h : SameTree is js) :
      SameTree (.branch head xs :: is) (.branch other ys :: js)

end SectionItem

namespace Render

/-! ### Parts as lines -/

def spaced (parts : List (List (List Char))) : List (List Char) := List.intercalate [[]] parts

@[simp] theorem spaced_nil : spaced [] = [] := rfl

@[simp] theorem spaced_singleton (ls : List (List Char)) : spaced [ls] = ls := by
  simp [spaced, List.intercalate]

theorem spaced_cons (ls : List (List Char)) {lss : List (List (List Char))} (h : lss ≠ []) :
    spaced (ls :: lss) = ls ++ [] :: spaced lss := by
  obtain ⟨ms, mss, rfl⟩ := List.exists_cons_of_ne_nil h
  simp [spaced, List.intercalate]

theorem spaced_ne_nil {lss : List (List (List Char))} (hne : lss ≠ []) (h : ∀ ls ∈ lss, ls ≠ []) :
    spaced lss ≠ [] := by
  obtain ⟨ls, lss, rfl⟩ := List.exists_cons_of_ne_nil hne
  have hls : ls ≠ [] := h ls List.mem_cons_self
  by_cases hnil : lss = []
  · simpa [hnil] using hls
  · simp [spaced_cons ls hnil]

theorem head?_spaced {lss : List (List (List Char))} (hne : ∀ ls ∈ lss, ls ≠ [])
    (h : ∀ ls ∈ lss.head?, ls.head? ≠ some []) : (spaced lss).head? ≠ some [] := by
  cases lss with
  | nil => simp
  | cons ls lss =>
    by_cases hnil : lss = []
    · simpa [hnil] using h ls rfl
    · rw [spaced_cons ls hnil, List.head?_append_of_ne_nil _ (hne ls List.mem_cons_self)]
      exact h ls rfl

theorem getLast?_spaced {lss : List (List (List Char))} (h : ∀ ls ∈ lss, ls ≠ [] ∧ [] ∉ ls) :
    (spaced lss).getLast? ≠ some [] := by
  induction lss with
  | nil => simp
  | cons ls lss ih =>
    obtain ⟨hls, hlss⟩ := List.forall_mem_cons.mp h
    by_cases hnil : lss = []
    · rw [hnil, spaced_singleton]
      exact fun he => hls.2 (List.mem_of_getLast? he)
    · have hrest : spaced lss ≠ [] := spaced_ne_nil hnil fun ms hms => (hlss ms hms).1
      rw [spaced_cons ls hnil, List.getLast?_append_of_ne_nil _ (List.cons_ne_nil _ _),
        List.getLast?_cons_of_ne_nil hrest]
      exact ih hlss

theorem joinParts_unlines {lss : List (List (List Char))} (h : ∀ ls ∈ lss, ls ≠ []) :
    joinParts (lss.map Text.unlines) = Text.unlines (spaced lss) := by
  induction lss with
  | nil => rfl
  | cons ls lss ih =>
    obtain ⟨hls, hlss⟩ := List.forall_mem_cons.mp h
    rw [List.map_cons]
    by_cases hnil : lss = []
    · simp [hnil]
    · have hrest : spaced lss ≠ [] := spaced_ne_nil hnil hlss
      rw [joinParts_cons _ (by simpa using hnil), ih hlss, spaced_cons ls hnil,
        Text.unlines_append hls (List.cons_ne_nil _ _), Text.unlines_cons [] hrest]
      simp [blankLine]

/-! ### Bodies in tags -/

theorem getLast?_openTag (title : List Char) : (openTag title).getLast? = some '>' :=
  List.getLast?_concat

theorem getLast?_closeTag (title : List Char) : (closeTag title).getLast? = some '>' :=
  List.getLast?_concat

def setIn (line : List Char) : List Char := if line.isEmpty then [] else ' ' :: ' ' :: line

@[simp] theorem setIn_nil : setIn [] = [] := rfl

theorem setIn_eq_nil {line : List Char} : setIn line = [] ↔ line = [] := by
  cases line <;> simp [setIn]

def between (o : FormatOptions) (line : List Char) : List Char :=
  if o.indentation then setIn line else line

theorem between_eq_id {o : FormatOptions} (h : o.indentation = false) : between o = id := by
  funext line
  rw [between, h]
  rfl

theorem between_eq_setIn {o : FormatOptions} (h : o.indentation = true) : between o = setIn := by
  funext line
  rw [between, if_pos h]

theorem between_eq_nil {o : FormatOptions} {line : List Char} :
    between o line = [] ↔ line = [] := by
  rw [between]
  split
  · exact setIn_eq_nil
  · rfl

theorem getLast?_between (o : FormatOptions) (line : List Char) :
    (between o line).getLast? = line.getLast? := by
  rw [between]
  split
  · cases line <;> simp [setIn, List.getLast?_cons_cons]
  · rfl

theorem mem_between_iff {o : FormatOptions} {c : Char} (hc : c ≠ ' ') {line : List Char} :
    c ∈ between o line ↔ c ∈ line := by
  rw [between]
  split
  · cases line <;> simp [setIn, hc]
  · rfl

theorem unlines_eq_nil {ls : List (List Char)} (h : ls.head? ≠ some []) :
    Text.unlines ls = [] ↔ ls = [] := by
  cases ls with
  | nil => simp [Text.unlines, List.intercalate]
  | cons l ls =>
    have hl : l ≠ [] := fun he => h (by rw [he]; rfl)
    by_cases hls : ls = []
    · simp [hls, hl]
    · simp [Text.unlines_cons l hls]

/-- Lines that are read again as they are stand between tags line by line. -/
theorem wrapTag_unlines {o : FormatOptions} (title : List Char) {ls : List (List Char)}
    (hfirst : ls.head? ≠ some [])
    (hread : o.indentation = true → Text.lines (Text.unlines ls) = ls) :
    wrapTag o title (Text.unlines ls) =
      Text.unlines (openTag title :: ls.map (between o) ++ [closeTag title]) := by
  have hbody : (if o.indentation then indent (Text.unlines ls) else Text.unlines ls) =
      Text.unlines (ls.map (between o)) := by
    cases ho : o.indentation with
    | false => simp [between_eq_id ho]
    | true =>
      rw [if_pos rfl, indent, hread ho, between_eq_setIn ho]
      rfl
  have hfirst' : (ls.map (between o)).head? ≠ some [] := by
    cases ls <;> simp_all [between_eq_nil]
  rw [wrapTag, hbody]
  by_cases hls : ls = []
  · simp [hls, Text.unlines, List.intercalate]
  · have hmap : ls.map (between o) ≠ [] := by simpa using hls
    have hne : Text.unlines (ls.map (between o)) ≠ [] :=
      fun he => hmap ((unlines_eq_nil hfirst').mp he)
    rw [if_neg (by simpa using hne), Text.unlines_concat (by simp), Text.unlines_cons _ hmap]

/-! ### Sections as lines -/

mutual
/-- The lines that an item makes where the bodies of tags are not set in. -/
def linesOf : SectionItem → List (List Char)
  | .leaf l => Text.splitAt '\n' l.text.toList
  | .branch head items => match head.title with
    | none => spaced (linesOfAll items)
    | some t => openTag t.toList :: spaced (linesOfAll items) ++ [closeTag t.toList]
def linesOfAll : List SectionItem → List (List (List Char))
  | [] => []
  | i :: is => linesOf i :: linesOfAll is
end

theorem linesOf_titled {head : SectionHead} {t : String} (items : List SectionItem)
    (h : head.title = some t) : linesOf (.branch head items) =
      openTag t.toList :: spaced (linesOfAll items) ++ [closeTag t.toList] := by
  rw [linesOf, h]

/-- A title on one line of which the opening tag is no closing tag. -/
structure TaggedTitle (title : List Char) : Prop where
  oneLine : '\n' ∉ title
  opens : title.head? ≠ some '/'

/-- A line to show that has no blanks at its ends and does not begin like a tag. -/
structure TaggedLine (line : List Char) : Prop where
  trimmed : Text.trim line = line
  shown : line ≠ []
  noTag : line.head? ≠ some '<'

mutual
/-- An untitled leaf of such lines, or a titled section of such items that has content. -/
def Tagged : SectionItem → Prop
  | .leaf l => l.title = none ∧ ∀ line ∈ Text.splitAt '\n' l.text.toList, TaggedLine line
  | .branch head items =>
    (∃ t ∈ head.title, TaggedTitle t.toList) ∧ AllTagged items ∧ SectionItem.anyContent items = true
def AllTagged : List SectionItem → Prop
  | [] => True
  | i :: is => Tagged i ∧ AllTagged is
end

/-- A titled section of such items; it may itself be empty. -/
structure TaggedSection (s : Section) : Prop where
  titled : ∃ t ∈ s.head.title, TaggedTitle t.toList
  items : AllTagged s.items

instance (title : List Char) : Decidable (TaggedTitle title) :=
  decidable_of_iff ('\n' ∉ title ∧ title.head? ≠ some '/')
    ⟨fun ⟨h₁, h₂⟩ => ⟨h₁, h₂⟩, fun h => ⟨h.oneLine, h.opens⟩⟩

instance (line : List Char) : Decidable (TaggedLine line) :=
  decidable_of_iff (Text.trim line = line ∧ line ≠ [] ∧ line.head? ≠ some '<')
    ⟨fun ⟨h₁, h₂, h₃⟩ => ⟨h₁, h₂, h₃⟩, fun h => ⟨h.trimmed, h.shown, h.noTag⟩⟩

mutual
def decidableTagged : (i : SectionItem) → Decidable (Tagged i)
  | .leaf l => inferInstanceAs (Decidable (l.title = none ∧ ∀ line ∈ _, TaggedLine line))
  | .branch head items =>
    have := decidableAllTagged items
    inferInstanceAs
      (Decidable ((∃ t ∈ head.title, TaggedTitle t.toList) ∧ AllTagged items ∧ _ = true))
def decidableAllTagged : (items : List SectionItem) → Decidable (AllTagged items)
  | [] => inferInstanceAs (Decidable True)
  | i :: is =>
    have := decidableTagged i
    have := decidableAllTagged is
    inferInstanceAs (Decidable (Tagged i ∧ AllTagged is))
end

instance : DecidablePred AllTagged := decidableAllTagged

instance (s : Section) : Decidable (TaggedSection s) :=
  decidable_of_iff ((∃ t ∈ s.head.title, TaggedTitle t.toList) ∧ AllTagged s.items)
    ⟨fun ⟨h₁, h₂⟩ => ⟨h₁, h₂⟩, fun h => ⟨h.titled, h.items⟩⟩

theorem TaggedLine.firm {line : List Char} (h : TaggedLine line) : Text.Firm line :=
  Text.firm_of_trim h.shown h.trimmed

theorem Tagged.first {i : SectionItem} (h : Tagged i) : ∃ line more, linesOf i = line :: more ∧
    line ≠ [] ∧ ∀ t, line ≠ closeTag t := by
  cases i with
  | leaf l =>
    obtain ⟨-, hlines⟩ : _ ∧ ∀ line ∈ Text.splitAt '\n' l.text.toList, TaggedLine line := h
    obtain ⟨line, more, he⟩ := List.exists_cons_of_ne_nil (Text.splitAt_ne_nil '\n' l.text.toList)
    have hline : TaggedLine line := hlines line (he ▸ List.mem_cons_self)
    refine ⟨line, more, he, hline.shown, ?_⟩
    rintro t rfl
    exact hline.noTag rfl
  | branch head items =>
    obtain ⟨⟨t, ht, htitle⟩, -⟩ : (∃ t ∈ head.title, TaggedTitle t.toList) ∧ _ := h
    refine ⟨openTag t.toList, _, linesOf_titled items ht, by simp [openTag], fun u he => ?_⟩
    refine htitle.opens ?_
    cases htext : t.toList with
    | nil => simp [htext, openTag, closeTag] at he
    | cons c cs =>
      rw [htext] at he
      have hc : c = '/' := (List.cons.inj (List.cons.inj he).2).1
      rw [hc]
      rfl

theorem ne_nil_of_linesOfAll {items : List SectionItem} (h : AllTagged items) :
    ∀ ls ∈ linesOfAll items, ls ≠ [] := by
  induction items with
  | nil => simp [linesOfAll]
  | cons i is ih =>
    obtain ⟨hi, his⟩ : Tagged i ∧ AllTagged is := h
    obtain ⟨line, more, he, -⟩ := hi.first
    exact List.forall_mem_cons.mpr ⟨by simp [he], ih his⟩

theorem head?_linesOfAll {items : List SectionItem} (h : AllTagged items) :
    (spaced (linesOfAll items)).head? ≠ some [] := by
  refine head?_spaced (ne_nil_of_linesOfAll h) ?_
  cases items with
  | nil => simp [linesOfAll]
  | cons i is =>
    obtain ⟨line, more, he, hline, -⟩ := h.1.first
    rintro ls ⟨⟩
    simpa [he] using hline

/-- An untitled leaf is written as its lines. -/
theorem leaf_lines (o : FormatOptions) (level : Nat) {l : Leaf} (htitle : l.title = none)
    (h : ∀ line ∈ Text.splitAt '\n' l.text.toList, Text.Firm line) :
    leaf o level l = some (Text.unlines (Text.splitAt '\n' l.text.toList)) := by
  have hfirm := Text.firm_unlines (Text.splitAt_ne_nil '\n' l.text.toList) h
  rw [Text.unlines_splitAt] at hfirm ⊢
  simp [leaf, hfirm.trim, hfirm.ne_nil, htitle, wrap]

variable {o : FormatOptions}

theorem wrapTag_linesOfAll (hplain : o.indentation = false) (title : List Char)
    {items : List SectionItem} (h : AllTagged items) :
    wrapTag o title (Text.unlines (spaced (linesOfAll items))) =
      Text.unlines (openTag title :: spaced (linesOfAll items) ++ [closeTag title]) := by
  rw [wrapTag_unlines title (head?_linesOfAll h) (by simp [hplain]), between_eq_id hplain,
    List.map_id]

theorem parts_tagged (hstyle : o.sectionStyle = .tag) (hplain : o.indentation = false)
    (items : List SectionItem) : ∀ level, AllTagged items →
      parts o level items = (linesOfAll items).map Text.unlines := by
  induction items using SectionItem.items_induction with
  | nil => exact fun _ _ => rfl
  | leaf l is ih =>
    intro level h
    obtain ⟨⟨htitle, hlines⟩, his⟩ : (l.title = none ∧ _) ∧ AllTagged is := h
    rw [parts, item, leaf_lines o level htitle fun line hline => (hlines line hline).firm,
      ih level his]
    rfl
  | branch head inner is ihinner ih =>
    intro level h
    obtain ⟨⟨⟨t, ht, -⟩, hinner, hcontent⟩, his⟩ :
      ((∃ t ∈ head.title, _) ∧ AllTagged inner ∧ _) ∧ AllTagged is := h
    have hwrapped := wrapTag_linesOfAll hplain t.toList hinner
    rw [← linesOf_titled inner ht, ← joinParts_unlines (ne_nil_of_linesOfAll hinner),
      ← ihinner (inside head.title level) hinner] at hwrapped
    rw [parts, item, if_pos hcontent, ih level his, linesOfAll, List.map_cons, ← hwrapped, hstyle,
      ht]
    rfl

theorem sectionAt_tagged (hstyle : o.sectionStyle = .tag) (hplain : o.indentation = false)
    (level : Nat) {s : Section} (h : TaggedSection s) :
    sectionAt o level s = Text.unlines (linesOf s.toItem) := by
  obtain ⟨t, ht, -⟩ := h.titled
  rw [sectionAt, body, parts_tagged hstyle hplain _ _ h.items,
    joinParts_unlines (ne_nil_of_linesOfAll h.items), hstyle, Section.toItem,
    linesOf_titled s.items ht, ← wrapTag_linesOfAll hplain t.toList h.items, ht]
  rfl

theorem mem_spaced {lss : List (List (List Char))} {l : List Char} (h : l ∈ spaced lss) :
    l = [] ∨ ∃ ls ∈ lss, l ∈ ls := by
  induction lss with
  | nil => cases h
  | cons ls lss ih =>
    by_cases hnil : lss = []
    · exact Or.inr ⟨ls, List.mem_cons_self, by simpa [hnil] using h⟩
    · rw [spaced_cons ls hnil, List.mem_append, List.mem_cons] at h
      rcases h with hl | rfl | hl
      · exact Or.inr ⟨ls, List.mem_cons_self, hl⟩
      · exact Or.inl rfl
      · rcases ih hl with hl | ⟨ms, hms, hl⟩
        · exact Or.inl hl
        · exact Or.inr ⟨ms, List.mem_cons_of_mem ls hms, hl⟩

theorem notMem_tagLines {title : List Char} (h : TaggedTitle title) {lss : List (List (List Char))}
    (hlss : ∀ ls ∈ lss, ∀ l ∈ ls, '\n' ∉ l) :
    ∀ l ∈ openTag title :: spaced lss ++ [closeTag title], '\n' ∉ l := by
  have hspaced : ∀ l ∈ spaced lss, '\n' ∉ l := by
    intro l hl
    rcases mem_spaced hl with rfl | ⟨ls, hls, hl⟩
    · simp
    · exact hlss ls hls l hl
  have htags : '\n' ∉ openTag title ∧ '\n' ∉ closeTag title := by
    simp [openTag, closeTag, h.oneLine]
  rw [List.cons_append, List.forall_mem_cons, List.forall_mem_append, List.forall_mem_singleton]
  exact ⟨htags.1, hspaced, htags.2⟩

theorem notMem_linesOfAll (items : List SectionItem) : AllTagged items →
    ∀ ls ∈ linesOfAll items, ∀ l ∈ ls, '\n' ∉ l := by
  induction items using SectionItem.items_induction with
  | nil => simp [linesOfAll]
  | leaf l is ih =>
    intro h
    exact List.forall_mem_cons.mpr ⟨fun _ => Text.notMem_splitAt, ih h.2⟩
  | branch head inner is ihinner ih =>
    intro h
    obtain ⟨⟨⟨t, ht, htitle⟩, hinner, -⟩, his⟩ :
      ((∃ t ∈ head.title, TaggedTitle t.toList) ∧ AllTagged inner ∧ _) ∧ AllTagged is := h
    refine List.forall_mem_cons.mpr ⟨?_, ih his⟩
    rw [linesOf_titled inner ht]
    exact notMem_tagLines htitle (ihinner hinner)

/-! ### What the lines determine -/

theorem closeTag_inj {t u : List Char} (h : closeTag t = closeTag u) : t = u := by
  have happend : t ++ ['>'] = u ++ ['>'] := List.cons.inj (List.cons.inj h).2 |>.2
  exact List.append_cancel_right happend

theorem openTag_inj {t u : List Char} (h : openTag t = openTag u) : t = u := by
  have happend : t ++ ['>'] = u ++ ['>'] := (List.cons.inj h).2
  exact List.append_cancel_right happend

def behind (is : List SectionItem) (after : List (List Char)) : List (List Char) :=
  if is.isEmpty then after else [] :: (spaced (linesOfAll is) ++ after)

theorem spaced_append (i : SectionItem) (is : List SectionItem) (after : List (List Char)) :
    spaced (linesOfAll (i :: is)) ++ after = linesOf i ++ behind is after := by
  rw [linesOfAll]
  cases is with
  | nil => simp [linesOfAll, behind]
  | cons j js =>
    have hne : linesOfAll (j :: js) ≠ [] := by simp [linesOfAll]
    simp [behind, spaced_cons _ hne]

/-- Items that can be told from their lines in front of a closing tag, whatever follows it. -/
def Determined (xs : List SectionItem) : Prop :=
  ∀ (ys : List SectionItem) (t u : List Char) (after after' : List (List Char)), AllTagged ys →
    spaced (linesOfAll xs) ++ closeTag t :: after = spaced (linesOfAll ys) ++ closeTag u :: after' →
      SectionItem.SameTree xs ys ∧ t = u ∧ after = after'

theorem ne_closed {i : SectionItem} (h : Tagged i) (is : List SectionItem) (t : List Char)
    (after after' : List (List Char)) :
    closeTag t :: after ≠ spaced (linesOfAll (i :: is)) ++ after' := by
  obtain ⟨line, more, hlines, -, hline⟩ := h.first
  rw [spaced_append, hlines]
  exact fun he => hline t (List.cons.inj he).1.symm

theorem Determined.of_behind {is js : List SectionItem} {t u : List Char}
    {after after' : List (List Char)}
    (h : Determined is) (hjs : AllTagged js)
    (he : behind is (closeTag t :: after) = behind js (closeTag u :: after')) :
    SectionItem.SameTree is js ∧ t = u ∧ after = after' := by
  have hempty : ∀ v, closeTag v ≠ [] := fun v => List.cons_ne_nil _ _
  cases is with
  | nil =>
    cases js with
    | nil => exact h _ t u after after' hjs he
    | cons j js => exact absurd (List.cons.inj he).1 (hempty t)
  | cons i is =>
    cases js with
    | nil => exact absurd (List.cons.inj he).1.symm (hempty u)
    | cons j js => exact h _ t u after after' hjs (List.cons.inj he).2

def isText (line : List Char) : Bool := line.head?.any (· != '<')

theorem isText_of_tagged {line : List Char} (h : TaggedLine line) : isText line = true := by
  obtain ⟨c, cs, rfl⟩ := List.exists_cons_of_ne_nil h.shown
  simpa [isText] using h.noTag

theorem head?_behind (is : List SectionItem) (t : List Char) (after : List (List Char)) :
    ∀ l ∈ (behind is (closeTag t :: after)).head?, isText l = false := by
  cases is with
  | nil => simp [behind, closeTag, isText]
  | cons i is => simp [behind, isText]

theorem leaf_ne_branch {l : Leaf} {head : SectionHead} {inner : List SectionItem}
    (hl : Tagged (.leaf l)) (hb : Tagged (.branch head inner)) (after after' : List (List Char)) :
    linesOf (.leaf l) ++ after ≠ linesOf (.branch head inner) ++ after' := by
  obtain ⟨-, hlines⟩ : _ ∧ ∀ line ∈ Text.splitAt '\n' l.text.toList, TaggedLine line := hl
  obtain ⟨⟨t, ht, -⟩, -⟩ : (∃ t ∈ head.title, _) ∧ _ := hb
  obtain ⟨line, more, hfirst⟩ :=
    List.exists_cons_of_ne_nil (Text.splitAt_ne_nil '\n' l.text.toList)
  have hline : TaggedLine line := hlines line (hfirst ▸ List.mem_cons_self)
  rw [linesOf, hfirst, linesOf_titled inner ht]
  intro he
  have htag : line = openTag t.toList := (List.cons.inj he).1
  exact hline.noTag (by rw [htag]; rfl)

theorem determined (items : List SectionItem) : AllTagged items → Determined items := by
  -- The first line tells a text, an opening tag and the closing tag around the items apart, so the
  -- items of the other side begin in the same way.
  induction items using SectionItem.items_induction with
  | nil =>
    intro _ ys t u after after' hys he
    cases ys with
    | nil =>
      obtain ⟨htag, hafter⟩ := List.cons.inj he
      exact ⟨.nil, closeTag_inj htag, hafter⟩
    | cons j js => exact absurd he (ne_closed hys.1 js t after _)
  | leaf l is ih =>
    intro h ys t u after after' hys he
    obtain ⟨hl, his⟩ : Tagged (.leaf l) ∧ AllTagged is := h
    cases ys with
    | nil => exact absurd he.symm (ne_closed hl is u after' _)
    | cons j js =>
      obtain ⟨hj, hjs⟩ : Tagged j ∧ AllTagged js := hys
      rw [spaced_append, spaced_append] at he
      cases j with
      | leaf m =>
        -- the lines of a text end where an empty line or a tag follows
        obtain ⟨hsame, hrest⟩ := append_inj_of_heads (fun l' hl' => isText_of_tagged (hl.2 l' hl'))
          (fun m' hm' => isText_of_tagged (hj.2 m' hm')) (head?_behind is t after)
          (head?_behind js u after') he
        obtain ⟨htree, hclosed⟩ := (ih his).of_behind hjs hrest
        have htext : l.text.toList = m.text.toList := by
          rw [← Text.unlines_splitAt l.text.toList, hsame, Text.unlines_splitAt]
        exact ⟨.leaf (hl.1.trans hj.1.symm) (String.toList_inj.mp htext) htree, hclosed⟩
      | branch other ys => exact absurd he (leaf_ne_branch hl hj _ _)
  | branch head inner is ihinner ih =>
    intro h ys t u after after' hys he
    obtain ⟨hi, his⟩ : Tagged (.branch head inner) ∧ AllTagged is := h
    cases ys with
    | nil => exact absurd he.symm (ne_closed hi is u after' _)
    | cons j js =>
      obtain ⟨hj, hjs⟩ : Tagged j ∧ AllTagged js := hys
      rw [spaced_append, spaced_append] at he
      cases j with
      | leaf m => exact absurd he.symm (leaf_ne_branch hj hi _ _)
      | branch other ys =>
        obtain ⟨⟨title, htitle, -⟩, hinner, -⟩ : (∃ t ∈ head.title, _) ∧ AllTagged inner ∧ _ := hi
        obtain ⟨⟨title', htitle', -⟩, hys', -⟩ : (∃ t ∈ other.title, _) ∧ AllTagged ys ∧ _ := hj
        rw [linesOf_titled inner htitle, linesOf_titled ys htitle'] at he
        simp only [List.cons_append, List.append_assoc, List.nil_append] at he
        obtain ⟨hopen, hbody⟩ := List.cons.inj he
        -- the closing tag of the section ends its items, and what follows is behind it
        obtain ⟨hsame, -, hrest⟩ := ihinner hinner _ _ _ _ _ hys' hbody
        obtain ⟨htree, hclosed⟩ := (ih his).of_behind hjs hrest
        have hchars : title = title' := String.toList_inj.mp (openTag_inj hopen)
        exact ⟨.branch (by rw [htitle, htitle', hchars]) hsame htree, hclosed⟩

theorem linesOfAll_congr {xs ys : List SectionItem} (h : SectionItem.SameTree xs ys) :
    linesOfAll xs = linesOfAll ys := by
  induction h with
  | nil => rfl
  | leaf _ htext _ ih => rw [linesOfAll, linesOfAll, linesOf, linesOf, htext, ih]
  | branch htitle _ _ ihinner ih =>
    rw [linesOfAll, linesOfAll, linesOf, linesOf, htitle, ihinner, ih]

/-- The lines of a section determine its title and what is in it. -/
theorem linesOf_inj {s t : Section} (hs : TaggedSection s) (ht : TaggedSection t) :
    linesOf s.toItem = linesOf t.toItem ↔
      s.head.title = t.head.title ∧ SectionItem.SameTree s.items t.items := by
  obtain ⟨title, htitle, -⟩ := hs.titled
  obtain ⟨title', htitle', -⟩ := ht.titled
  rw [Section.toItem, Section.toItem, linesOf_titled s.items htitle, linesOf_titled t.items htitle']
  constructor
  · intro he
    obtain ⟨hopen, hbody⟩ := List.cons.inj he
    obtain ⟨htree, -⟩ := determined s.items hs.items _ _ _ _ _ ht.items hbody
    have hchars : title = title' := String.toList_inj.mp (openTag_inj hopen)
    exact ⟨by rw [htitle, htitle', hchars], htree⟩
  · rintro ⟨hsame, htree⟩
    obtain rfl : title = title' := Option.some.inj (htitle.symm.trans (hsame.trans htitle'))
    rw [linesOfAll_congr htree]

theorem splitAt_sectionAt (hstyle : o.sectionStyle = .tag) (hplain : o.indentation = false)
    (level : Nat) {s : Section} (h : TaggedSection s) :
    Text.splitAt '\n' (sectionAt o level s) = linesOf s.toItem := by
  obtain ⟨t, ht, htitle⟩ := h.titled
  rw [sectionAt_tagged hstyle hplain level h, Section.toItem, linesOf_titled s.items ht]
  exact Text.splitAt_unlines (by simp) (notMem_tagLines htitle (notMem_linesOfAll s.items h.items))

/-- Two sections are written in tags alike exactly if they have the same titles, texts and
nesting. -/
theorem renderSection_eq_iff {o' : FormatOptions} {s t : Section}
    (ho : o.sectionStyle = .tag ∧ o.indentation = false)
    (ho' : o'.sectionStyle = .tag ∧ o'.indentation = false)
    (hs : TaggedSection s) (ht : TaggedSection t) :
    renderSection o s = renderSection o' t ↔
      s.head.title = t.head.title ∧ SectionItem.SameTree s.items t.items := by
  rw [renderSection, renderSection, String.ofList_inj, ← linesOf_inj hs ht]
  constructor
  · intro he
    have hlines := congrArg (Text.splitAt '\n') he
    rwa [splitAt_sectionAt ho.1 ho.2 1 hs, splitAt_sectionAt ho'.1 ho'.2 1 ht] at hlines
  · intro he
    rw [sectionAt_tagged ho.1 ho.2 1 hs, sectionAt_tagged ho'.1 ho'.2 1 ht, he]

def nestedNotes : Section :=
  let titled (title : String) (items : List SectionItem) : SectionItem :=
    .branch ⟨some title, .context, none, none, none⟩ items
  let text (t : String) : SectionItem := .leaf (Leaf.ofText .context t)
  ⟨⟨some "Notes", .context, none, none, none⟩,
    [titled "A" [titled "B" [text "x"]], text "first > 0\nsecond"]⟩

def flatNotes : Section :=
  let titled (title : String) (items : List SectionItem) : SectionItem :=
    .branch ⟨some title, .content, none, none, none⟩ items
  let text (t : String) : SectionItem := .leaf (Leaf.ofText .content t)
  ⟨⟨some "Notes", .content, none, none, none⟩,
    [titled "A" [text "x"], titled "B" [text "x"], text "first > 0", text "second"]⟩

def tagOptions : FormatOptions := { FormatOptions.standard with sectionStyle := .tag }

theorem renderSection_eq_iff_notes :
    (tagOptions.sectionStyle = .tag ∧ tagOptions.indentation = false) ∧
    TaggedSection nestedNotes ∧ TaggedSection flatNotes ∧
    renderSection tagOptions nestedNotes ≠ renderSection tagOptions flatNotes := by
  have ho : tagOptions.sectionStyle = .tag ∧ tagOptions.indentation = false := ⟨rfl, rfl⟩
  have hnested : TaggedSection nestedNotes := by decide
  have hflat : TaggedSection flatNotes := by decide
  refine ⟨ho, hnested, hflat, fun he => ?_⟩
  obtain ⟨-, htree⟩ := (renderSection_eq_iff ho ho hnested hflat).mp he
  -- the first section holds a section here and a text there
  cases htree with
  | branch _ hinner _ => cases hinner

end Render
end PromptWeave
