import PromptWeave.Placeholder
import PromptWeave.Proofs.Text

/-! Where placeholders stand.
A placeholder is recognised by its own characters alone, whatever follows, and no placeholder
begins inside another one. So the pieces of a text can be put together again, and a text that was
put together shows the placeholders it was made of, and possibly more, made of plain characters. -/
namespace PromptWeave
namespace Placeholder

/-! ### Paths -/

def EndsPath (cs : List Char) : Prop := ∀ c ∈ cs.head?, isInner c = false ∧ c ≠ '.'

theorem pathRun_of_endsPath {cs : List Char} (h : EndsPath cs) : pathRun cs = ([], cs) := by
  cases cs with
  | nil => rfl
  | cons c rest =>
    obtain ⟨hinner, hpoint⟩ := h c rfl
    rw [pathRun, if_neg (by simp [hinner])]
    rintro d rest rfl
    exact absurd rfl hpoint

theorem pathRun_inner {c : Char} (hc : isInner c = true) (rest : List Char) :
    pathRun (c :: rest) = (c :: (pathRun rest).1, (pathRun rest).2) := by
  rw [pathRun, if_pos hc]
  rintro d rest rfl
  simp [isInner, isFirst, isLetter] at hc

theorem pathRun_point {c : Char} (hc : isInner c = true) (rest : List Char) :
    pathRun ('.' :: c :: rest) = ('.' :: c :: (pathRun rest).1, (pathRun rest).2) := by
  rw [pathRun, if_pos hc]

theorem pathRun_parts (cs : List Char) : (pathRun cs).1 ++ (pathRun cs).2 = cs := by
  fun_induction pathRun cs <;> simp_all

/-- What a path holds is told from its characters, whatever stands behind them. -/
theorem pathRun_append (cs : List Char) {behind : List Char} (h : EndsPath behind) :
    pathRun ((pathRun cs).1 ++ behind) = ((pathRun cs).1, behind) := by
  fun_induction pathRun cs with
  | case1 => exact pathRun_of_endsPath h
  | case2 d rest hd path more hrun ih =>
    rw [hrun] at ih
    rw [List.cons_append, List.cons_append, pathRun_point hd, ih]
  | case3 d rest hd => exact pathRun_of_endsPath h
  | case4 c rest hpoint hc path more hrun ih =>
    rw [hrun] at ih
    rw [List.cons_append, pathRun_inner hc, ih]
  | case5 c rest hpoint hc => exact pathRun_of_endsPath h

theorem notMem_pathRun (cs : List Char) {c : Char} (hc : isInner c = false) (hpoint : c ≠ '.') :
    c ∉ (pathRun cs).1 := by
  have hinner : ∀ d, isInner d = true → c ≠ d := by
    rintro d hd rfl
    simp [hd] at hc
  fun_induction pathRun cs with
  | case1 => simp
  | case2 d rest hd path more hrun ih =>
    rw [hrun] at ih
    simp [ih, hinner d hd, hpoint]
  | case3 d rest hd => simp
  | case4 d rest _ hd path more hrun ih =>
    rw [hrun] at ih
    simp [ih, hinner d hd]
  | case5 => simp

theorem isBlank_of_isInner {c : Char} (h : isInner c = true) : Text.isBlank c = false := by
  have hle : ∀ d e : Char, d ≤ e ↔ d.toNat ≤ e.toNat := fun d e => Iff.rfl
  simp only [isInner, isFirst, isLetter, Bool.or_eq_true, Bool.and_eq_true, decide_eq_true_eq,
    beq_iff_eq, hle] at h
  rcases h with ((hletter | rfl) | hdigit) | rfl
  · simp [Text.isBlank] at hletter ⊢
    omega
  · decide
  · simp [Text.isBlank] at hdigit ⊢
    omega
  · decide

def IsPath (path : List Char) : Prop := path? path = some (path, [])

theorem path?_parts {cs path behind : List Char} (h : path? cs = some (path, behind)) :
    path ++ behind = cs := by
  cases cs with
  | nil => cases h
  | cons c rest =>
    rw [path?] at h
    split_ifs at h
    cases h
    rw [List.cons_append, pathRun_parts]

theorem isPath_of_path? {cs path behind : List Char} (h : path? cs = some (path, behind)) :
    IsPath path := by
  cases cs with
  | nil => cases h
  | cons c rest =>
    rw [path?] at h
    split_ifs at h with hc
    cases h
    have hnil : EndsPath [] := by simp [EndsPath]
    have hrun := pathRun_append rest hnil
    rw [List.append_nil] at hrun
    rw [IsPath, path?, if_pos hc, hrun]

namespace IsPath

variable {path : List Char}

theorem append (h : IsPath path) {behind : List Char} (hbehind : EndsPath behind) :
    path? (path ++ behind) = some (path, behind) := by
  cases path with
  | nil => cases h
  | cons c rest =>
    rw [IsPath, path?] at h
    split_ifs at h with hc
    simp only [Option.some.injEq, Prod.mk.injEq, List.cons.injEq, true_and] at h
    have hrun := pathRun_append rest hbehind
    rw [h.1] at hrun
    rw [List.cons_append, path?, if_pos hc, hrun]

theorem first (h : IsPath path) : ∃ c rest, path = c :: rest ∧ isFirst c = true := by
  cases path with
  | nil => cases h
  | cons c rest =>
    rw [IsPath, path?] at h
    split_ifs at h with hc
    exact ⟨c, rest, rfl, hc⟩

theorem notMem (h : IsPath path) {c : Char} (hc : isInner c = false) (hpoint : c ≠ '.') :
    c ∉ path := by
  obtain ⟨d, rest, rfl, hd⟩ := h.first
  rw [IsPath, path?, if_pos hd] at h
  simp only [Option.some.injEq, Prod.mk.injEq, List.cons.injEq, true_and] at h
  have hrest := notMem_pathRun rest hc hpoint
  rw [h.1] at hrest
  have hne : c ≠ d := by
    rintro rfl
    simp [isInner, hd] at hc
  simp [hne, hrest]

end IsPath

/-! ### Placeholders -/

structure Sound (p : Placeholder) : Prop where
  lead : ∀ c ∈ p.lead, Text.isBlank c = true
  path : IsPath p.path
  trail : ∀ c ∈ p.trail, Text.isBlank c = true

def body (p : Placeholder) : List Char := p.lead ++ p.path ++ p.trail ++ closeMark

theorem source_eq (p : Placeholder) : p.source = '\x7b' :: '\x7b' :: p.body := by
  simp [source, body, openMark]

theorem body_ne_nil (p : Placeholder) : p.body ≠ [] := by simp [body, closeMark]

namespace Sound

variable {p : Placeholder}

theorem notMem_body (h : p.Sound) : '\x7b' ∉ p.body := by
  have hblank : ∀ cs : List Char, (∀ c ∈ cs, Text.isBlank c = true) → '\x7b' ∉ cs := by
    intro cs hcs hmem
    exact absurd (hcs _ hmem) (by decide)
  have hpath : '\x7b' ∉ p.path := h.path.notMem (by decide) (by decide)
  simp [body, closeMark, hblank p.lead h.lead, hpath, hblank p.trail h.trail]

theorem endsPath_trail (h : p.Sound) (rest : List Char) :
    EndsPath (p.trail ++ (closeMark ++ rest)) := by
  intro c hc
  cases htrail : p.trail with
  | nil =>
    rw [htrail] at hc
    cases hc
    decide
  | cons d trail =>
    rw [htrail] at hc
    cases hc
    have hblank : Text.isBlank c = true := h.trail c (by simp [htrail])
    constructor
    · by_contra hinner
      simp [isBlank_of_isInner (by simpa using hinner)] at hblank
    · rintro rfl
      exact absurd hblank (by decide)

theorem at?_append (h : p.Sound) (rest : List Char) : at? (p.source ++ rest) = some p := by
  obtain ⟨c, more, hpath, hfirst⟩ := h.path.first
  have hc : Text.isBlank c = false := isBlank_of_isInner (by simp [isInner, hfirst])
  have hbrace : Text.isBlank '\x7d' = false := by decide
  have hsource : p.source ++ rest =
      openMark ++ (p.lead ++ (p.path ++ (p.trail ++ (closeMark ++ rest)))) := by
    simp [source, List.append_assoc]
  have hdropLead : (p.lead ++ (p.path ++ (p.trail ++ (closeMark ++ rest)))).dropWhile
      Text.isBlank = p.path ++ (p.trail ++ (closeMark ++ rest)) := by
    simp [List.dropWhile_append_of_pos h.lead, hpath, hc]
  have htakeLead : (p.lead ++ (p.path ++ (p.trail ++ (closeMark ++ rest)))).takeWhile
      Text.isBlank = p.lead := by
    simp [List.takeWhile_append_of_pos h.lead, hpath, hc]
  have hdropTrail : (p.trail ++ (closeMark ++ rest)).dropWhile Text.isBlank =
      closeMark ++ rest := by
    simp [List.dropWhile_append_of_pos h.trail, closeMark, hbrace]
  have htakeTrail : (p.trail ++ (closeMark ++ rest)).takeWhile Text.isBlank = p.trail := by
    simp [List.takeWhile_append_of_pos h.trail, closeMark, hbrace]
  rw [hsource, at?]
  simp only [Text.after?_append, Option.bind_eq_bind, Option.bind_some, hdropLead, htakeLead,
    h.path.append (h.endsPath_trail rest), hdropTrail, htakeTrail]
  rfl

end Sound

theorem at?_spec {cs : List Char} {p : Placeholder} (h : at? cs = some p) :
    p.Sound ∧ ∃ rest, cs = p.source ++ rest := by
  rw [at?] at h
  simp only [Option.bind_eq_bind, Option.bind_eq_some_iff] at h
  obtain ⟨inside, hopen, ⟨path, behind⟩, hpath, rest, hclose, h⟩ := h
  cases h
  refine ⟨⟨fun c => List.mem_takeWhile_imp, isPath_of_path? hpath,
    fun c => List.mem_takeWhile_imp⟩, rest, ?_⟩
  calc cs = openMark ++ inside := (Text.append_of_after? hopen).symm
    _ = openMark ++ (inside.takeWhile Text.isBlank ++ (path ++ behind)) := by
      rw [path?_parts hpath, List.takeWhile_append_dropWhile]
    _ = openMark ++ (inside.takeWhile Text.isBlank ++
        (path ++ (behind.takeWhile Text.isBlank ++ (closeMark ++ rest)))) := by
      rw [Text.append_of_after? hclose, List.takeWhile_append_dropWhile]
    _ = _ := by simp [source, List.append_assoc]

/-! ### Pieces -/

theorem cut_skip (front rest : List Char) : cut front.length (front ++ rest) = pieces rest := by
  induction front with
  | nil => rfl
  | cons c front ih => exact ih

@[simp] theorem pieces_nil : pieces [] = [] := rfl

theorem pieces_plain {c : Char} {rest : List Char} (h : at? (c :: rest) = none) :
    pieces (c :: rest) = .plain c :: pieces rest := by
  rw [pieces, cut, h, pieces]

theorem pieces_hole {p : Placeholder} (h : p.Sound) (rest : List Char) :
    pieces (p.source ++ rest) = .hole p :: pieces rest := by
  have hat := h.at?_append rest
  have hskip := cut_skip ('\x7b' :: p.body) rest
  rw [source_eq, List.cons_append] at hat ⊢
  rw [pieces, cut, hat]
  simp only [source_eq, List.length_cons, Nat.add_sub_cancel]
  exact congrArg (List.cons (Piece.hole p)) hskip

/-- A text is cut from its beginning, a piece at a time. -/
theorem pieces_induction {motive : List Char → Prop} (nil : motive [])
    (plain : ∀ c rest, at? (c :: rest) = none → motive rest → motive (c :: rest))
    (hole : ∀ (p : Placeholder) rest, p.Sound → motive rest → motive (p.source ++ rest))
    (cs : List Char) : motive cs := by
  induction hlength : cs.length using Nat.strongRecOn generalizing cs with
  | ind n ih =>
    subst hlength
    cases cs with
    | nil => exact nil
    | cons c rest =>
      cases hat : at? (c :: rest) with
      | none => exact plain c rest hat (ih rest.length (by simp) rest rfl)
      | some p =>
        obtain ⟨hsound, more, hcs⟩ := at?_spec hat
        have hshort : more.length < (c :: rest).length := by
          rw [hcs, source_eq, List.length_append, List.length_cons]
          omega
        rw [hcs]
        exact hole p more hsound (ih more.length hshort more rfl)

theorem flatMap_source_pieces (cs : List Char) : (pieces cs).flatMap Piece.source = cs := by
  induction cs using pieces_induction with
  | nil => rfl
  | plain c rest hat ih => rw [pieces_plain hat, List.flatMap_cons, ih, Piece.source,
      List.singleton_append]
  | hole p rest hsound ih => rw [pieces_hole hsound, List.flatMap_cons, ih, Piece.source]

theorem sound_of_mem_pieces {p : Placeholder} {cs : List Char} (h : .hole p ∈ pieces cs) :
    p.Sound := by
  induction cs using pieces_induction with
  | nil => simp at h
  | plain c rest hat ih =>
    rw [pieces_plain hat] at h
    exact ih (by simpa using h)
  | hole q rest hsound ih =>
    rw [pieces_hole hsound] at h
    rcases List.mem_cons.mp h with he | h
    · cases he
      exact hsound
    · exact ih h

theorem pieces_of_not_opens {cs : List Char} (h : opens cs = false) :
    pieces cs = cs.map Piece.plain := by
  induction cs with
  | nil => rfl
  | cons c rest ih =>
    simp only [opens, Bool.or_eq_false_iff] at h
    have hat : at? (c :: rest) = none := by
      simp only [at?, Text.after?, Text.startsWith] at h ⊢
      simp [h.1]
    rw [pieces_plain hat, ih h.2, List.map_cons]

/-! ### Texts put together -/

/-- The pieces `ps` are those of `qs`, some of which are put together to placeholders. -/
inductive SpelledOut : List Piece → List Piece → Prop
  | nil : SpelledOut [] []
  | same (x : Piece) {ps qs : List Piece} (h : SpelledOut ps qs) : SpelledOut (x :: ps) (x :: qs)
  | opened (p : Placeholder) {ps qs : List Piece} (h : SpelledOut ps qs) :
    SpelledOut (.hole p :: ps) (p.source.map Piece.plain ++ qs)

theorem plain_of_notMem {front rest : List Char} {qs : List Piece} (hfront : '\x7b' ∉ front)
    (h : qs.flatMap Piece.source = front ++ rest) :
    ∃ qs', qs = front.map Piece.plain ++ qs' ∧ qs'.flatMap Piece.source = rest := by
  induction front generalizing qs with
  | nil => exact ⟨qs, rfl, h⟩
  | cons c front ih =>
    simp only [List.mem_cons, not_or] at hfront
    cases qs with
    | nil => simp at h
    | cons x qs =>
      cases x with
      | plain d =>
        simp only [List.flatMap_cons, Piece.source, List.cons_append, List.nil_append,
          List.cons.injEq] at h
        obtain ⟨rfl, h⟩ := h
        obtain ⟨qs', rfl, hqs'⟩ := ih hfront.2 h
        exact ⟨qs', rfl, hqs'⟩
      | hole p =>
        simp only [List.flatMap_cons, Piece.source, source_eq, List.cons_append,
          List.cons.injEq] at h
        exact absurd h.1 hfront.1

/-- A placeholder that comes of a text put together is one of its pieces, or is made of plain
characters: none begins or ends inside another one. -/
theorem plain_of_at? {c : Char} {p : Placeholder} {qs : List Piece}
    (h : at? (c :: qs.flatMap Piece.source) = some p) :
    ∃ qs', .plain c :: qs = p.source.map Piece.plain ++ qs' := by
  obtain ⟨hsound, rest, hcs⟩ := at?_spec h
  rw [source_eq, List.cons_append, List.cons.injEq] at hcs
  obtain ⟨rfl, hcs⟩ := hcs
  cases qs with
  | nil => cases hcs
  | cons x qs =>
    cases x with
    | plain d =>
      simp only [List.flatMap_cons, Piece.source, List.cons_append, List.nil_append,
        List.cons.injEq] at hcs
      obtain ⟨rfl, hcs⟩ := hcs
      obtain ⟨qs', rfl, -⟩ := plain_of_notMem hsound.notMem_body hcs
      exact ⟨qs', by simp [source_eq]⟩
    | hole q =>
      -- A brace would have to follow the opening ones.
      simp only [List.flatMap_cons, Piece.source, source_eq, List.cons_append, List.cons.injEq,
        true_and] at hcs
      obtain ⟨b, body, hbody⟩ := List.exists_cons_of_ne_nil p.body_ne_nil
      rw [hbody, List.cons_append, List.cons.injEq] at hcs
      exact absurd (by simp [hbody, ← hcs.1]) hsound.notMem_body

theorem spelledOut_pieces {qs : List Piece} (h : ∀ p, .hole p ∈ qs → p.Sound) :
    SpelledOut (pieces (qs.flatMap Piece.source)) qs := by
  induction hlength : qs.length using Nat.strongRecOn generalizing qs with
  | ind n ih =>
    subst hlength
    cases qs with
    | nil => exact .nil
    | cons x qs =>
      have hqs : ∀ p, .hole p ∈ qs → p.Sound := fun p hp => h p (List.mem_cons_of_mem x hp)
      cases x with
      | hole p =>
        rw [List.flatMap_cons, Piece.source, pieces_hole (h p List.mem_cons_self)]
        exact .same (.hole p) (ih qs.length (by simp) hqs rfl)
      | plain c =>
        rw [List.flatMap_cons, Piece.source, List.singleton_append]
        cases hat : at? (c :: qs.flatMap Piece.source) with
        | none =>
          rw [pieces_plain hat]
          exact .same (.plain c) (ih qs.length (by simp) hqs rfl)
        | some p =>
          obtain ⟨qs', hqs'⟩ := plain_of_at? hat
          have htext : c :: qs.flatMap Piece.source = p.source ++ qs'.flatMap Piece.source := by
            have hsources := congrArg (List.flatMap Piece.source) hqs'
            simpa [Piece.source, List.flatMap_map] using hsources
          have hsub : ∀ q, .hole q ∈ qs' → q.Sound := by
            intro q hq
            refine h q ?_
            rw [hqs']
            exact List.mem_append_right _ hq
          have hshort : qs'.length < (Piece.plain c :: qs).length := by
            rw [hqs', List.length_append, List.length_map, source_eq, List.length_cons]
            omega
          rw [htext, hqs', pieces_hole (at?_spec hat).1]
          exact .opened p (ih qs'.length hshort hsub rfl)

end Placeholder
end PromptWeave
