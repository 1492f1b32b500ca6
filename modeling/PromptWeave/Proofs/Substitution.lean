import PromptWeave.Proofs.Parameters

/-! Substitution by a cut of the text.
A placeholder is a name, with further segments behind points, between blanks and double braces. A
text has exactly one cut at its leftmost placeholders, and substitution keeps what stands between
them and puts a value in place of each that has one. -/
namespace PromptWeave
namespace Placeholder

/-! ### How placeholders are spelled -/

/-- A letter or an underscore, and then letters, digits, underscores and hyphens. -/
def IsName (s : List Char) : Prop :=
  ∃ c rest, s = c :: rest ∧ isFirst c = true ∧ ∀ d ∈ rest, isInner d = true

def IsSegment (s : List Char) : Prop := s ≠ [] ∧ ∀ c ∈ s, isInner c = true

def pointed (segments : List (List Char)) : List Char := segments.flatMap fun s => '.' :: s

structure Spelled (p : Placeholder) : Prop where
  lead : ∀ c ∈ p.lead, Text.isBlank c = true
  path : ∃ name segments, IsName name ∧ (∀ s ∈ segments, IsSegment s) ∧
    p.path = name ++ pointed segments
  trail : ∀ c ∈ p.trail, Text.isBlank c = true

theorem pathRun_inners {s : List Char} (hs : ∀ c ∈ s, isInner c = true) (rest : List Char) :
    pathRun (s ++ rest) = (s ++ (pathRun rest).1, (pathRun rest).2) := by
  induction s with
  | nil => rfl
  | cons c s ih =>
    rw [List.cons_append, pathRun_inner (hs c List.mem_cons_self),
      ih fun d hd => hs d (List.mem_cons_of_mem c hd)]
    rfl

theorem pathRun_pointed {segments : List (List Char)} (h : ∀ s ∈ segments, IsSegment s) :
    pathRun (pointed segments) = (pointed segments, []) := by
  induction segments with
  | nil => rfl
  | cons s segments ih =>
    have hrest := ih fun t ht => h t (List.mem_cons_of_mem s ht)
    obtain ⟨hne, hinner⟩ := h s List.mem_cons_self
    obtain ⟨c, s, rfl⟩ := List.exists_cons_of_ne_nil hne
    have hpointed : pointed ((c :: s) :: segments) = '.' :: c :: (s ++ pointed segments) := by
      simp [pointed]
    rw [hpointed, pathRun_point (hinner c List.mem_cons_self),
      pathRun_inners (fun d hd => hinner d (List.mem_cons_of_mem c hd)), hrest]

/-- What a path goes on with ends the segment before and may hold further ones. -/
theorem pathRun_spelled (cs : List Char) : ∃ inner segments, (∀ c ∈ inner, isInner c = true) ∧
    (∀ s ∈ segments, IsSegment s) ∧ (pathRun cs).1 = inner ++ pointed segments := by
  fun_induction pathRun cs with
  | case1 => exact ⟨[], [], by simp, by simp, rfl⟩
  | case2 d rest hd path more hrun ih =>
    obtain ⟨inner, segments, hinner, hsegments, hpath⟩ := ih
    simp only [hrun] at hpath
    refine ⟨[], (d :: inner) :: segments, by simp, ?_, ?_⟩
    · have hfirst : IsSegment (d :: inner) := ⟨by simp, by simpa [hd] using hinner⟩
      simpa [hfirst] using hsegments
    · simp [pointed, hpath]
  | case3 d rest hd => exact ⟨[], [], by simp, by simp, rfl⟩
  | case4 c rest hpoint hc path more hrun ih =>
    obtain ⟨inner, segments, hinner, hsegments, hpath⟩ := ih
    simp only [hrun] at hpath
    exact ⟨c :: inner, segments, by simpa [hc] using hinner, hsegments, by simp [hpath]⟩
  | case5 c rest hpoint hc => exact ⟨[], [], by simp, by simp, rfl⟩

theorem isPath_iff {path : List Char} : IsPath path ↔
    ∃ name segments, IsName name ∧ (∀ s ∈ segments, IsSegment s) ∧
      path = name ++ pointed segments := by
  constructor
  · intro h
    obtain ⟨c, rest, rfl, hc⟩ := h.first
    rw [IsPath, path?, if_pos hc] at h
    simp only [Option.some.injEq, Prod.mk.injEq, List.cons.injEq, true_and] at h
    obtain ⟨inner, segments, hinner, hsegments, hrest⟩ := pathRun_spelled rest
    rw [h.1] at hrest
    exact ⟨c :: inner, segments, ⟨c, inner, rfl, hc, hinner⟩, hsegments, by rw [hrest]; rfl⟩
  · rintro ⟨_, segments, ⟨c, inner, rfl, hc, hinner⟩, hsegments, rfl⟩
    rw [IsPath, List.cons_append, path?, if_pos hc, pathRun_inners hinner,
      pathRun_pointed hsegments]

/-- Placeholders are read from texts just as they are spelled. -/
theorem sound_iff {p : Placeholder} : p.Sound ↔ p.Spelled :=
  ⟨fun h => ⟨h.lead, isPath_iff.mp h.path, h.trail⟩,
    fun h => ⟨h.lead, isPath_iff.mpr h.path, h.trail⟩⟩

theorem at?_eq_some_iff {cs : List Char} {p : Placeholder} :
    at? cs = some p ↔ p.Spelled ∧ ∃ rest, cs = p.source ++ rest := by
  constructor
  · intro h
    obtain ⟨hsound, hrest⟩ := at?_spec h
    exact ⟨sound_iff.mp hsound, hrest⟩
  · rintro ⟨hspelled, rest, rfl⟩
    exact (sound_iff.mpr hspelled).at?_append rest

theorem opens_iff {cs : List Char} : opens cs = true ↔ openMark <:+: cs := by
  induction cs with
  | nil => simp [opens, openMark]
  | cons c rest ih =>
    rw [opens, Bool.or_eq_true, ih, List.infix_cons_iff, Text.startsWith,
      List.isPrefixOf_iff_prefix]

/-! ### Cuts -/

inductive Part
  | stretch (s : List Char)
  | hole (p : Placeholder)
deriving DecidableEq, Repr

def Part.source : Part → List Char
  | .stretch s => s
  | .hole p => p.source

/-- No placeholder begins in `s` when `rest` stands behind it. -/
def NoneBegins (s rest : List Char) : Prop :=
  ∀ front back, s = front ++ back → back ≠ [] →
    ∀ p : Placeholder, p.Spelled → ¬ p.source <+: back ++ rest

/-- A cut of a text at placeholders, each the first one behind the one before. -/
inductive LeftmostCut : List Char → List Part → Prop
  | last {s : List Char} (h : NoneBegins s []) : LeftmostCut s [.stretch s]
  | next {s rest : List Char} {p : Placeholder} {parts : List Part}
      (hs : NoneBegins s (p.source ++ rest)) (hp : p.Spelled) (h : LeftmostCut rest parts) :
      LeftmostCut (s ++ (p.source ++ rest)) (.stretch s :: .hole p :: parts)

theorem noneBegins_nil (rest : List Char) : NoneBegins [] rest := by
  intro front back hs hback
  have hnil : back = [] := (List.append_eq_nil_iff.mp hs.symm).2
  exact absurd hnil hback

theorem noneBegins_cons {c : Char} {s rest : List Char} (hat : at? (c :: (s ++ rest)) = none)
    (h : NoneBegins s rest) : NoneBegins (c :: s) rest := by
  intro front back hs hback p hp hprefix
  cases front with
  | nil =>
    cases hs
    obtain ⟨more, hmore⟩ := hprefix
    have hsome : at? (c :: (s ++ rest)) = some p := at?_eq_some_iff.mpr ⟨hp, more, hmore.symm⟩
    cases hat.symm.trans hsome
  | cons d front =>
    cases hs
    exact h front back rfl hback p hp hprefix

theorem NoneBegins.length_le {s s' rest rest' : List Char} {p : Placeholder}
    (h : NoneBegins s rest) (hp : p.Spelled) (he : s ++ rest = s' ++ (p.source ++ rest')) :
    s.length ≤ s'.length := by
  by_contra hlt
  obtain ⟨back, hback⟩ : s' <+: s :=
    List.prefix_of_prefix_length_le ⟨_, he.symm⟩ ⟨_, rfl⟩ (by omega)
  subst hback
  have hne : back ≠ [] := by
    rintro rfl
    simp at hlt
  rw [List.append_assoc, List.append_cancel_left_eq] at he
  exact h s' back rfl hne p hp ⟨rest', he.symm⟩

theorem LeftmostCut.source {cs : List Char} {parts : List Part} (h : LeftmostCut cs parts) :
    parts.flatMap Part.source = cs := by
  induction h with
  | last => simp [Part.source]
  | next _ _ _ ih => simp [Part.source, ih]

theorem LeftmostCut.unique {cs : List Char} {parts parts' : List Part} (h : LeftmostCut cs parts)
    (h' : LeftmostCut cs parts') : parts = parts' := by
  have hsource : ∀ p : Placeholder, p.source ≠ [] := fun p => by simp [source_eq]
  induction h generalizing parts' with
  | last h =>
    cases h' with
    | last => rfl
    | @next s' rest' p' _ _ hp' _ =>
      have hle := h.length_le hp' (List.append_nil _)
      have hpos := List.length_pos_iff.mpr (hsource p')
      simp only [List.length_append] at hle
      omega
  | @next s rest p parts hs hp h ih =>
    generalize hcs : s ++ (p.source ++ rest) = cs at h'
    cases h' with
    | last h' =>
      have hle := h'.length_le hp ((List.append_nil _).trans hcs.symm)
      have hpos := List.length_pos_iff.mpr (hsource p)
      rw [← hcs] at hle
      simp only [List.length_append] at hle
      omega
    | @next s' rest' p' parts' hs' hp' h' =>
      have hlength : s.length = s'.length :=
        Nat.le_antisymm (hs.length_le hp' hcs) (hs'.length_le hp hcs.symm)
      obtain ⟨rfl, hbehind⟩ := List.append_inj hcs hlength
      -- What is found where the placeholders begin does not depend on what follows them.
      have hp₁ := (sound_iff.mpr hp).at?_append rest
      have hp₂ := (sound_iff.mpr hp').at?_append rest'
      rw [hbehind, hp₂, Option.some.injEq] at hp₁
      subst hp₁
      rw [List.append_cancel_left_eq] at hbehind
      subst hbehind
      rw [ih h']

end Placeholder

namespace Parameters

open Placeholder (Part LeftmostCut pieces)

/-- A stretch stays as it is; a placeholder makes room for its value if it has one. -/
def put (params : Parameters) : Part → List Char
  | .stretch s => s
  | .hole p => match lookup? params p.path with
    | some v => display v
    | none => p.source

/-- The pieces of a text that stand side by side make up a cut. -/
theorem exists_leftmostCut (cs : List Char) : ∃ parts, LeftmostCut cs parts ∧
    ∀ params, parts.flatMap (put params) = (pieces cs).flatMap (expand params) := by
  induction cs using Placeholder.pieces_induction with
  | nil => exact ⟨[.stretch []], .last (Placeholder.noneBegins_nil []), fun _ => rfl⟩
  | plain c rest hat ih =>
    obtain ⟨parts, hcut, hput⟩ := ih
    rw [Placeholder.pieces_plain hat]
    cases hcut with
    | last h =>
      have hnone : Placeholder.NoneBegins (c :: rest) [] :=
        Placeholder.noneBegins_cons (by rwa [List.append_nil]) h
      refine ⟨_, .last hnone, fun params => ?_⟩
      rw [List.flatMap_cons (x := Placeholder.Piece.plain c), ← hput params]
      rfl
    | @next s behind p parts hs hp h =>
      refine ⟨_, .next (Placeholder.noneBegins_cons hat hs) hp h, fun params => ?_⟩
      rw [List.flatMap_cons (x := Placeholder.Piece.plain c), ← hput params]
      rfl
  | hole p rest hsound ih =>
    obtain ⟨parts, hcut, hput⟩ := ih
    refine ⟨.stretch [] :: .hole p :: parts,
      .next (Placeholder.noneBegins_nil _) (Placeholder.sound_iff.mp hsound) hcut, fun params => ?_⟩
    rw [Placeholder.pieces_hole hsound, List.flatMap_cons, List.flatMap_cons, List.flatMap_cons,
      hput params]
    rfl

theorem toList_substitute (params : Parameters) (text : String) :
    (params.substitute text).toList = (pieces text.toList).flatMap (expand params) := by
  rw [substitute, String.toList_ofList, substituteChars_eq_fill, fill, expand_eq]

/-- A text has one cut at its leftmost placeholders, and substitution puts values into it. Nothing
changes where there are no parameters, no double braces or no placeholders with a value. -/
theorem substitute_leftmost (params : Parameters) (text : String) :
    ∃ parts, (∀ parts', LeftmostCut text.toList parts' ↔ parts' = parts) ∧
      (params.substitute text).toList = parts.flatMap (put params) ∧
      (params.isEmpty = true ∨ ¬ Placeholder.openMark <:+: text.toList →
        parts.flatMap (put params) = text.toList) ∧
      ((∀ p, .hole p ∈ parts → lookup? params p.path = none) → params.substitute text = text) := by
  obtain ⟨parts, hcut, hput⟩ := exists_leftmostCut text.toList
  have hvalue : (params.substitute text).toList = parts.flatMap (put params) := by
    rw [toList_substitute, hput]
  refine ⟨parts, fun parts' => ⟨fun h => h.unique hcut, fun h => h ▸ hcut⟩, hvalue, ?_, ?_⟩
  · intro hnone
    have hpassed : (params.isEmpty || !Placeholder.opens text.toList) = true := by
      simpa [← Placeholder.opens_iff] using hnone
    rw [← hvalue, substitute, String.toList_ofList, substituteChars, if_pos hpassed]
  · intro hnone
    have hsame : ∀ part ∈ parts, put params part = part.source := by
      intro part hpart
      cases part with
      | stretch s => rfl
      | hole p => rw [put, hnone p hpart, Part.source]
    have htext : (params.substitute text).toList = text.toList := by
      rw [hvalue, List.flatMap_def, List.map_congr_left hsame, ← List.flatMap_def, hcut.source]
    exact String.toList_injective htext

end Parameters
end PromptWeave
