import PromptWeave.Proofs.NamePattern.Quiet
import PromptWeave.Proofs.Regex.Within

/-! Patterns that the check reads as they are meant.
In a legible pattern every node has a quiet text. A pattern is legible if blanks count in it, names
and properties are plain, and no brackets stand inside brackets. -/
namespace PromptWeave
namespace NamePattern

open Regex Regex.Node

/-- The text of a node, its parts and its parentheses aside. -/
def words : Node → List Char
  | .blank s | .atom s _ | .repeated _ s _ => s
  | .flags s _ => s.tail.dropLast
  | .group opener _ _ => opener.tail

def legible (branches : Branches) : Bool := (withinBranches branches).all fun n => quiet 0 (words n)

theorem notMem_special_of_plainText {cs : List Char} (h : plainText cs = true) :
    ∀ c ∈ cs, c ∉ special :=
  notMem_of_all (by decide) h

theorem quiet_of_plainText {cs : List Char} (h : plainText cs = true) : quiet 0 cs = true := by
  refine quiet_of_noBrace (notMem_special_of_plainText h) fun hbrace => ?_
  have hplain := List.all_eq_true.mp h _ hbrace
  exact absurd hplain (by decide)

theorem quiet_of_tame {cs : List Char} (h : Tame .plain cs) : quiet 0 cs = true := by
  rcases h with hplain | ⟨_, rfl, inner, rfl, hinner⟩
  · exact quiet_of_plainText hplain
  · have hall : ∀ c ∈ ('\x7b' :: inner) ++ ['\x7d'], c ∉ special := by
      simp only [List.cons_append, List.forall_mem_cons, List.forall_mem_append]
      exact ⟨by decide, notMem_special_of_plainText hinner, by decide, by simp⟩
    exact quiet_concat hall (by decide) (by decide)

/-! ### Classes -/

theorem tailCloses_of_open {cs : List Char} (h : Open cs) : tailCloses (cs ++ [']']) = true := by
  induction h with
  | nil => rfl
  | cons hclose hback _ ih => rw [List.cons_append, tailCloses_cons hback hclose, ih]
  | escaped _ ih => exact ih

theorem classTail_of_open {cs : List Char} (h : Open cs) :
    classTail (cs ++ [']']) = (cs ++ [']']).length := by
  induction h with
  | nil => rfl
  | cons hclose hback _ ih =>
    rw [List.cons_append, classTail_cons hback hclose, ih]
    rfl
  | escaped _ ih =>
    simp only [List.cons_append, classTail, ih]
    rfl

theorem quiet_length (cs : List Char) : quiet cs.length cs = true := by
  induction cs with
  | nil => rfl
  | cons c cs ih => exact ih

theorem head?_of_open {cs : List Char} (h : Open cs) : cs.head? ≠ some ']' := by
  cases h with
  | nil => simp
  | cons hclose _ _ => simpa using hclose
  | escaped _ => simp

theorem closes_of_setText_caret {cs : List Char} (h : SetText cs) :
    closes ('^' :: cs) = true ∧ classLength ('^' :: cs) = cs.length + 1 := by
  obtain ⟨inner, hopen, rfl | ⟨rfl, hne⟩⟩ := h
  · have hlength := classTail_of_open hopen
    refine ⟨tailCloses_of_open hopen, ?_⟩
    simp only [classLength, hlength, List.length_cons]
  · obtain ⟨c, cs, rfl⟩ := List.exists_cons_of_ne_nil hne
    have hhead : (c :: cs ++ [']']).head? ≠ some ']' := by simpa using head?_of_open hopen
    rw [closes_caret hhead, classLength_caret hhead, classTail_of_open hopen]
    exact ⟨tailCloses_of_open hopen, rfl⟩

theorem closes_of_setText {cs : List Char} (h : SetText cs) (hcaret : cs.head? ≠ some '^') :
    closes cs = true ∧ classLength cs = cs.length := by
  obtain ⟨inner, hopen, rfl | ⟨rfl, hne⟩⟩ := h
  · have hlength := classTail_of_open hopen
    refine ⟨tailCloses_of_open hopen, ?_⟩
    simp only [classLength, hlength, List.length_cons]
  · obtain ⟨c, cs, rfl⟩ := List.exists_cons_of_ne_nil hne
    have hc : c ≠ '^' := by simpa using hcaret
    have hc' : c ≠ ']' := by simpa using head?_of_open hopen
    rw [List.cons_append, closes_other hc hc', classLength_other hc hc', ← List.cons_append,
      classTail_of_open hopen]
    exact ⟨tailCloses_of_open hopen, rfl⟩

/-- A class is read up to the bracket that closes it. -/
theorem closes_of_bracketed {cs : List Char} (h : Bracketed cs) :
    closes cs = true ∧ classLength cs = cs.length := by
  rcases h with ⟨htext, hcaret⟩ | ⟨more, rfl, htext⟩
  · exact closes_of_setText htext hcaret
  · exact closes_of_setText_caret htext

theorem quiet_of_bracketed {cs : List Char} (h : Bracketed cs) : quiet 0 ('[' :: cs) = true := by
  obtain ⟨hcloses, hlength⟩ := closes_of_bracketed h
  simp [quiet, hcloses, hlength, quiet_length]

/-! ### Quantifiers -/

theorem quiet_of_quantifierText {q : Quantifier} {c : Char} {cs : List Char}
    (h : QuantifierText q c cs) : quiet 0 (c :: cs) = true := by
  obtain ⟨lazy, hlazy, ⟨rfl, hc⟩ | ⟨inner, rfl, rfl, hq, hcount⟩⟩ := h
  · rcases hlazy with rfl | rfl <;> rcases hc with ⟨rfl, -⟩ | ⟨rfl, -⟩ | ⟨rfl, -⟩ <;> decide
  · have hinner : ∀ d ∈ inner, d ∉ special := notMem_of_all (by decide) hcount.1
    have hclosed : ∀ d ∈ ('\x7b' :: inner) ++ ['\x7d'], d ∉ special := by
      simp only [List.cons_append, List.forall_mem_cons, List.forall_mem_append]
      exact ⟨by decide, hinner, by decide, by simp⟩
    rcases hlazy with rfl | rfl
    · exact quiet_concat hclosed (by decide) (by decide)
    · have hmarked : ∀ d ∈ ('\x7b' :: inner ++ ['\x7d']) ++ ['?'], d ∉ special :=
        List.forall_mem_append.mpr ⟨hclosed, List.forall_mem_singleton.mpr (by decide)⟩
      simpa using quiet_concat hmarked (by decide) (by decide)

theorem not_isBlank_of_isCountChar {c : Char} (h : isCountChar c = true) :
    Text.isBlank c = false := by
  rcases Bool.or_eq_true_iff.mp h with hdigit | hcomma
  · obtain ⟨hlow, hhigh⟩ := Char.isDigit_iff_toNat.mp hdigit
    have hzero : '0'.toNat = 48 := rfl
    have hnine : '9'.toNat = 57 := rfl
    simp [Text.isBlank]
    omega
  · rw [beq_iff_eq.mp hcomma]
    decide

/-- Braces are taken for a count if they hold nothing but digits and commas, and one digit at least. -/
theorem repeatsAt_braces {inner : List Char} (hinner : '\x7d' ∉ inner) (rest : List Char) :
    repeatsAt ('\x7b' :: (inner ++ '\x7d' :: rest)) = true ↔
      (∀ d ∈ inner, isCountChar d = true) ∧ inner.any Char.isDigit = true := by
  have hbrace : isCountChar '\x7d' = false := by decide
  simp only [repeatsAt, if_neg (by decide : ¬('\x7b' = '*' ∨ '\x7b' = '+')), if_true,
    Bool.and_eq_true, beq_iff_eq]
  constructor
  · rintro ⟨hdigit, hhead⟩
    -- what stands behind the digits and commas is the brace, so they go up to it
    have hnil : inner.dropWhile isCountChar = [] := by
      by_contra hne
      obtain ⟨e, more, he⟩ := List.exists_cons_of_ne_nil hne
      rw [List.dropWhile_append, he] at hhead
      have hbrace' : e = '\x7d' := by simpa using hhead
      exact hinner (hbrace' ▸ (List.dropWhile_sublist isCountChar).subset (by simp [he]))
    have hcount := List.dropWhile_eq_nil_iff.mp hnil
    rw [List.takeWhile_append_of_pos hcount] at hdigit
    exact ⟨hcount, by simpa [hbrace] using hdigit⟩
  · rintro ⟨hcount, hdigit⟩
    rw [List.takeWhile_append_of_pos hcount, List.dropWhile_append_of_pos hcount]
    simp [hbrace, hdigit]

theorem repeatsAt_count {inner : List Char} (hcount : CountText inner) (rest : List Char) :
    repeatsAt ('\x7b' :: (inner ++ '\x7d' :: rest)) = true ↔ ∀ d ∈ inner, isCountChar d = true := by
  obtain ⟨hall, hdigit⟩ := hcount
  have hbrace : '\x7d' ∉ inner := fun hmem =>
    absurd (List.all_eq_true.mp hall _ hmem) (by decide)
  rw [repeatsAt_braces hbrace, and_iff_left hdigit]

/-- The check sees a quantifier that repeats if no blank stands in its count. -/
theorem repeatsAt_quantifierText {q : Quantifier} {c : Char} {cs : List Char}
    (h : QuantifierText q c cs) :
    repeatsAt (c :: cs) = true ↔ q ≠ .optional ∧ ∀ d ∈ cs, Text.isBlank d = false := by
  have hmark : Text.isBlank '?' = false := by decide
  have hbrace : Text.isBlank '\x7d' = false := by decide
  obtain ⟨lazy, hlazy, ⟨rfl, hc⟩ | ⟨inner, rfl, rfl, hq, hcount⟩⟩ := h
  · rcases hlazy with rfl | rfl <;>
      rcases hc with ⟨rfl, rfl⟩ | ⟨rfl, rfl⟩ | ⟨rfl, rfl⟩ <;> simp [repeatsAt, hmark]
  · have hlazy' : ∀ d ∈ '\x7d' :: lazy, Text.isBlank d = false := by
      rcases hlazy with rfl | rfl <;> simp [hbrace, hmark]
    have hblank : (∀ d ∈ inner, isCountChar d = true) ↔ ∀ d ∈ inner, Text.isBlank d = false := by
      refine forall₂_congr fun d hd => ⟨not_isBlank_of_isCountChar, fun hd' => ?_⟩
      have htext : isCountText d = true := List.all_eq_true.mp hcount.1 d hd
      simpa [isCountText, isCountChar, hd'] using htext
    rw [repeatsAt_count hcount, hblank, List.forall_mem_append]
    exact ⟨fun h => ⟨hq, h, hlazy'⟩, fun h => h.2.1⟩

/-! ### Nodes -/

theorem eq_nil_of_gap {cs : List Char} (h : Gap false cs) : cs = [] :=
  h.resolve_right fun hverbose => by simp at hverbose

theorem quiet_words {n : Node} (hproper : n.Proper false) (hreadable : n.readable = true) :
    quiet 0 (words n) = true := by
  cases n with
  | blank s => exact absurd (eq_nil_of_gap hproper.2) hproper.1
  | atom s a =>
    obtain ⟨c, more, rfl, hopen, hclose, hmarks, hform⟩ := hproper
    have hplain : a.plain = true := hreadable
    rcases hform rfl hplain with ⟨rfl, hset⟩ | ⟨rfl, d, rest, rfl, hrest⟩ | ⟨hset, hback, -, rfl⟩
    · exact quiet_of_bracketed hset
    · simpa [words, quiet] using quiet_of_tame (hrest.tame hplain)
    · have hc : c ∉ special := by simp [special, hopen, hclose, hset, hback]
      have hbrace : c ≠ '\x7b' := fun he => hmarks (by simp [he, quantifierMarks])
      have hchar : quiet 0 [c] = true :=
        quiet_of_noBrace (by simpa using hc) (by simpa using Ne.symm hbrace)
      exact hchar
  | flags s fs =>
    obtain ⟨inner, rfl, hinner⟩ := hproper
    have hwords : words (.flags ('(' :: (inner ++ [')'])) fs) = inner := by simp [words]
    rw [hwords]
    exact quiet_of_plainText (plainText_of_flagsText (hinner rfl))
  | repeated n s q =>
    obtain ⟨-, blank, c, mark, rfl, hgap, -, htext⟩ := hproper
    rw [eq_nil_of_gap hgap]
    exact quiet_of_quantifierText (htext rfl)
  | group opener kind branches =>
    obtain ⟨more, rfl, hmore⟩ := hproper
    have hkind : kind.plainName = true := (Bool.and_eq_true_iff.mp hreadable).1
    exact quiet_of_plainText ((hmore rfl).plainText hkind)

theorem legible_of_plain {pattern : List Char} {branches : Branches}
    (h : parse pattern = some branches) (hplain : (withinBranches branches).all Node.plain = true) :
    legible branches = true := by
  have hplain' := List.all_eq_true.mp hplain
  refine List.all_eq_true.mpr fun n hn => ?_
  exact quiet_words (proper_of_parse_plain h hplain' n hn) (readable_of_plain (hplain' n hn))

end NamePattern
end PromptWeave
