import PromptWeave.Proofs.Lists
import PromptWeave.Proofs.Sanitize

/-! What is left of a message whose absolute paths are hidden.
A message is cut into the absolute paths that stand in it, each up to the next blank or quote, and
the characters between them. The last component of a path is shown, and the other characters are
kept. No absolute path comes about where the two meet, so hiding once is enough. -/
namespace PromptWeave
namespace Text

/-- An absolute path begins at `rest`, which stands behind `before`. -/
def PathAt (before rest : List Char) : Prop :=
  (∀ c ∈ before.getLast?, opensPath c = true) ∧ atPath rest = true

theorem holdsPath_iff (cs : List Char) : holdsPath cs = true ↔
    ∃ front c rest, cs = front ++ c :: rest ∧ opensPath c = true ∧ atPath rest = true := by
  induction cs with
  | nil => simp [holdsPath]
  | cons d cs ih =>
    rw [holdsPath, Bool.or_eq_true, Bool.and_eq_true, ih]
    constructor
    · rintro (⟨hopens, hpath⟩ | ⟨front, c, rest, rfl, hopens, hpath⟩)
      · exact ⟨[], d, cs, rfl, hopens, hpath⟩
      · exact ⟨d :: front, c, rest, rfl, hopens, hpath⟩
    · rintro ⟨front, c, rest, he, hopens, hpath⟩
      cases front with
      | nil =>
        cases he
        exact Or.inl ⟨hopens, hpath⟩
      | cons e front =>
        cases he
        exact Or.inr ⟨front, c, rest, rfl, hopens, hpath⟩

def PathFree (cs : List Char) : Prop :=
  ∀ before rest, cs = before ++ rest → ¬ PathAt before rest

theorem pathFree_iff {cs : List Char} : PathFree cs ↔ mentionsPath cs = false := by
  rw [← Bool.not_eq_true, mentionsPath, Bool.or_eq_true, holdsPath_iff]
  constructor
  · rintro hfree (hpath | ⟨front, c, rest, rfl, hopens, hpath⟩)
    · exact hfree [] cs rfl ⟨by simp, hpath⟩
    · exact hfree (front ++ [c]) rest (by simp) ⟨by simpa using hopens, hpath⟩
  · rintro hnone before rest rfl ⟨hopens, hpath⟩
    rcases List.eq_nil_or_concat before with rfl | ⟨front, c, rfl⟩
    · exact hnone (Or.inl hpath)
    · rw [List.concat_eq_append] at hopens hnone
      exact hnone (Or.inr ⟨front, c, rest, by simp, hopens c (by simp), hpath⟩)

/-! ### No path is shown -/

/-- The first character of a text is kept, since only what stands behind a character is replaced. -/
theorem head?_hidePathsFrom (cs : List Char) : (hidePathsFrom 0 cs).head? = cs.head? := by
  cases cs with
  | nil => rfl
  | cons c cs =>
    rw [hidePathsFrom]
    split_ifs <;> rfl

theorem eq_cons_of_hidePathsFrom {c : Char} {cs rest : List Char}
    (h : hidePathsFrom 0 cs = c :: rest) : ∃ cs', cs = c :: cs' := by
  have hhead := head?_hidePathsFrom cs
  rw [h] at hhead
  exact List.head?_eq_some_iff.mp hhead.symm

theorem hidePathsFrom_cons_of_not_opens {c : Char} (h : opensPath c = false) (cs : List Char) :
    hidePathsFrom 0 (c :: cs) = c :: hidePathsFrom 0 cs := by
  rw [hidePathsFrom, if_neg (by simp [h])]

theorem not_opensPath_of_letter {c : Char} (h : isAsciiLetter c = true) : opensPath c = false := by
  have hparen : c ≠ '(' := by
    rintro rfl
    exact absurd h (by decide)
  have hequals : c ≠ '=' := by
    rintro rfl
    exact absurd h (by decide)
  simp [opensPath, not_endsPath_of_letter h, hparen, hequals]

theorem atPath_of_hidePathsFrom {cs : List Char} (h : atPath (hidePathsFrom 0 cs) = true) :
    atPath cs = true := by
  cases cs with
  | nil => exact h
  | cons c cs =>
    obtain ⟨shown, hshown⟩ := List.head?_eq_some_iff.mp (head?_hidePathsFrom (c :: cs))
    rw [hshown, atPath_cons, Bool.or_eq_true, Bool.and_eq_true] at h
    rw [atPath_cons, Bool.or_eq_true, Bool.and_eq_true]
    refine h.imp_right fun ⟨hletter, hdrive⟩ => ⟨hletter, ?_⟩
    obtain ⟨more, hmore⟩ := List.isPrefixOf_iff_prefix.mp hdrive
    rw [hidePathsFrom_cons_of_not_opens (not_opensPath_of_letter hletter)] at hshown
    -- neither the colon nor the backslash opens a path, so both stand in the text itself
    have hcolon : hidePathsFrom 0 cs = ':' :: '\\' :: more := by
      rw [(List.cons.inj hshown).2, ← hmore]
      rfl
    obtain ⟨cs', rfl⟩ := eq_cons_of_hidePathsFrom hcolon
    rw [hidePathsFrom_cons_of_not_opens (by decide)] at hcolon
    obtain ⟨cs'', rfl⟩ := eq_cons_of_hidePathsFrom (List.cons.inj hcolon).2
    rfl

/-- What is shown of a path opens none, whatever blank or quote follows. -/
theorem mentionsPath_lastComponent (path : List Char) : mentionsPath (lastComponent path) = false := by
  have hslash : '/' ∉ lastComponent path := fun h =>
    absurd (not_isSlash_of_mem_lastComponent h) (by decide)
  have hback := notMem_lastComponent path
  rw [mentionsPath, holdsPath_of_notMem hslash hback, Bool.or_false]
  by_contra hpath
  obtain ⟨c, run, hrun, hkind⟩ := pathRun_of_atPath (by simpa using hpath)
  rcases hkind with hhead | hmem
  · exact hslash (List.mem_of_mem_head? hhead)
  · exact hback ((List.takeWhile_sublist _).subset (hrun ▸ List.mem_cons_of_mem c hmem))

/-- Whether a text is empty or begins with what ends a path. -/
def Ended (cs : List Char) : Prop := ∀ c ∈ cs.head?, endsPath c = true

theorem ended_drop_pathRun (cs : List Char) : Ended (cs.drop (pathRun cs).length) := by
  intro c hc
  have hhead := List.head?_dropWhile_not (fun c => !endsPath c) cs
  rw [List.head?_drop, pathRun, getElem?_length_takeWhile, Option.mem_def] at hc
  rw [hc] at hhead
  simpa using hhead

theorem ended_hidePathsFrom {cs : List Char} (h : Ended cs) : Ended (hidePathsFrom 0 cs) := by
  rwa [Ended, head?_hidePathsFrom]

/-- Texts that are cut at a blank or a quote mention a path only apart from each other. -/
theorem mentionsPath_append_of_ended (cs : List Char) {rest : List Char} (h : Ended rest) :
    mentionsPath (cs ++ rest) = (mentionsPath cs || holdsPath rest) := by
  cases rest with
  | nil => simp [holdsPath]
  | cons q rest =>
    have hq : endsPath q = true := h q rfl
    rw [mentionsPath, mentionsPath, atPath_append hq, holdsPath_append hq, Bool.or_assoc]

theorem holdsPath_hidePathsFrom (n : Nat) (cs : List Char) : holdsPath (hidePathsFrom n cs) = false := by
  fun_induction hidePathsFrom n cs with
  | case1 n => rfl
  | case2 n c cs ih => exact ih
  | case3 c cs h ih =>
    rw [hidePathsFrom_eq] at ih ⊢
    have hended := ended_hidePathsFrom (ended_drop_pathRun cs)
    have hnone := mentionsPath_append_of_ended (lastComponent (pathRun cs)) hended
    rw [mentionsPath_lastComponent, ih, Bool.or_false, mentionsPath, Bool.or_eq_false_iff] at hnone
    rw [List.cons_append, holdsPath, hnone.1, hnone.2, Bool.and_false, Bool.or_false]
  | case4 c cs h ih =>
    rw [holdsPath, ih, Bool.or_false, Bool.eq_false_iff, ne_eq, Bool.and_eq_true]
    rintro ⟨hopens, hpath⟩
    simp [hopens, atPath_of_hidePathsFrom hpath] at h

theorem mentionsPath_hidePaths (cs : List Char) : mentionsPath (hidePaths cs) = false := by
  have hquote : opensPath '"' = true := by decide
  have hnone := holdsPath_hidePathsFrom 0 ('"' :: cs)
  rwa [hidePathsFrom_cons hquote, holdsPath, hquote, Bool.true_and] at hnone

theorem hidePaths_of_mentionsPath {cs : List Char} (h : mentionsPath cs = false) :
    hidePaths cs = cs := by
  rw [mentionsPath, Bool.or_eq_false_iff] at h
  rw [hidePaths, if_neg (by simp [h.1]), hidePathsFrom_of_holdsPath h.2]

/-! ### The rest is kept -/

@[simp] theorem hidePaths_nil : hidePaths [] = [] := rfl

theorem hidePaths_append_of_ended (cs : List Char) {rest : List Char} (h : Ended rest) :
    hidePaths (cs ++ rest) = hidePaths cs ++ hidePaths rest := by
  cases rest with
  | nil => simp
  | cons q rest =>
    have hq : endsPath q = true := h q rfl
    have hpath : atPath (q :: rest) = false := atPath_append hq rest []
    have hrest : hidePaths (q :: rest) = hidePathsFrom 0 (q :: rest) := by
      rw [hidePaths, hpath, if_neg (by simp)]
    rw [hidePaths_append hq, hrest]

theorem hidePaths_append_of_last (cs : List Char) {rest : List Char}
    (h : ∀ c ∈ cs.getLast?, endsPath c = true) :
    hidePaths (cs ++ rest) = hidePaths cs ++ hidePaths rest := by
  rcases List.eq_nil_or_concat cs with rfl | ⟨front, q, rfl⟩
  · simp
  · rw [List.concat_eq_append] at h ⊢
    have hq : endsPath q = true := h q (by simp)
    have hopens := opensPath_of_endsPath hq
    rw [List.append_assoc, List.singleton_append, hidePaths_append hq, hidePaths_append hq,
      hidePathsFrom_cons hopens, hidePathsFrom_cons hopens]
    simp

/-- A stretch of a message: a character that is kept, or an absolute path. -/
inductive Stretch
  | kept (c : Char)
  | path (p : List Char)

def Stretch.text : Stretch → List Char
  | kept c => [c]
  | path p => p

def Stretch.shown : Stretch → List Char
  | kept c => [c]
  | path p => lastComponent p

/-- How a text is cut into stretches, from left to right; `opened` says whether it may begin with a
path. A path goes on up to the next blank or quote, and where no path may begin or none does, the
character is kept. -/
inductive Cut : (opened : Bool) → List Char → List Stretch → Prop
  | nil (opened : Bool) : Cut opened [] []
  | kept {opened : Bool} {c : Char} {cs : List Char} {ps : List Stretch}
      (hc : opened = true → atPath (c :: cs) = false) (rest : Cut (opensPath c) cs ps) :
      Cut opened (c :: cs) (.kept c :: ps)
  | path {p cs : List Char} {ps : List Stretch} (hpath : atPath (p ++ cs) = true)
      (hp : ∀ c ∈ p, endsPath c = false) (hcs : Ended cs) (rest : Cut false cs ps) :
      Cut true (p ++ cs) (.path p :: ps)

theorem Cut.text {opened : Bool} {cs : List Char} {ps : List Stretch} (h : Cut opened cs ps) :
    ps.flatMap Stretch.text = cs := by
  induction h with
  | nil => rfl
  | kept _ _ ih => rw [List.flatMap_cons, ih]; rfl
  | path _ _ _ _ ih => rw [List.flatMap_cons, ih]; rfl

theorem pathRun_append_of_ended {p cs : List Char} (hp : ∀ c ∈ p, endsPath c = false)
    (hcs : Ended cs) : pathRun (p ++ cs) = p := by
  cases cs with
  | nil => rw [List.append_nil, pathRun_of_word hp]
  | cons q cs => rw [pathRun_append (hcs q rfl), pathRun_of_word hp]

theorem exists_cut (opened : Bool) (cs : List Char) : ∃ ps, Cut opened cs ps := by
  induction hn : cs.length using Nat.strong_induction_on generalizing opened cs with
  | _ n ih =>
    cases cs with
    | nil => exact ⟨[], .nil opened⟩
    | cons c cs =>
      by_cases h : opened = true ∧ atPath (c :: cs) = true
      · obtain ⟨rfl, hpath⟩ := h
        obtain ⟨d, run, hrun, -⟩ := pathRun_of_atPath hpath
        have hsplit := pathRun_append_drop (c :: cs)
        have hshorter : ((c :: cs).drop (pathRun (c :: cs)).length).length < n := by
          rw [List.length_drop, hrun, ← hn, List.length_cons, List.length_cons]
          omega
        obtain ⟨ps, hps⟩ := ih _ hshorter false _ rfl
        have hword : ∀ e ∈ pathRun (c :: cs), endsPath e = false := fun e he => by
          simpa using List.mem_takeWhile_imp he
        have hcut := Cut.path (by rwa [hsplit]) hword (ended_drop_pathRun (c :: cs)) hps
        rw [hsplit] at hcut
        exact ⟨_, hcut⟩
      · obtain ⟨ps, hps⟩ := ih cs.length (by simp [← hn]) (opensPath c) cs rfl
        exact ⟨_, .kept (fun ho => by simpa [ho] using h) hps⟩

theorem Cut.eq_path {opened : Bool} {cs : List Char} {ps : List Stretch} (h : Cut opened cs ps)
    (hopened : opened = true) (hpath : atPath cs = true) :
    ∃ qs, ps = .path (pathRun cs) :: qs ∧ Cut false (cs.drop (pathRun cs).length) qs := by
  cases h with
  | nil => simp [atPath] at hpath
  | kept hc => simp [hc hopened] at hpath
  | path _ hp hcs rest =>
    rw [pathRun_append_of_ended hp hcs, List.drop_left]
    exact ⟨_, rfl, rest⟩

theorem Cut.eq_kept {opened : Bool} {c : Char} {cs : List Char} {ps : List Stretch}
    (h : Cut opened (c :: cs) ps) (hc : opened = true → atPath (c :: cs) = false) :
    ∃ qs, ps = .kept c :: qs ∧ Cut (opensPath c) cs qs := by
  generalize htext : c :: cs = text at h hc
  cases h with
  | nil => cases htext
  | kept _ rest =>
    cases htext
    exact ⟨_, rfl, rest⟩
  | path hpath => simp [hc rfl] at hpath

/-- There is only one way to cut a text. -/
theorem Cut.unique {opened : Bool} {cs : List Char} {ps qs : List Stretch} (h : Cut opened cs ps)
    (h' : Cut opened cs qs) : ps = qs := by
  induction h generalizing qs with
  | nil =>
    generalize htext : ([] : List Char) = text at h'
    cases h' with
    | nil => rfl
    | kept => cases htext
    | path hpath => simp [← htext, atPath] at hpath
  | kept hc rest ih =>
    obtain ⟨qs, rfl, hqs⟩ := h'.eq_kept hc
    rw [ih hqs]
  | path hpath hp hcs rest ih =>
    obtain ⟨qs, rfl, hqs⟩ := h'.eq_path rfl hpath
    rw [pathRun_append_of_ended hp hcs, List.drop_left] at hqs
    rw [pathRun_append_of_ended hp hcs, ih hqs]

theorem Cut.shown {opened : Bool} {cs : List Char} {ps : List Stretch} (h : Cut opened cs ps) :
    ps.flatMap Stretch.shown = if opened then hidePaths cs else hidePathsFrom 0 cs := by
  induction h with
  | nil opened => cases opened <;> rfl
  | @kept opened c cs ps hc _ ih =>
    have hnext : hidePathsFrom 0 (c :: cs) =
        c :: if opensPath c then hidePaths cs else hidePathsFrom 0 cs := by
      by_cases hopens : opensPath c = true
      · rw [hidePathsFrom_cons hopens, if_pos hopens]
      · rw [hidePathsFrom_cons_of_not_opens (by simpa using hopens), if_neg hopens]
    have htext : (if opened then hidePaths (c :: cs) else hidePathsFrom 0 (c :: cs)) =
        hidePathsFrom 0 (c :: cs) := by
      split_ifs with hopened
      · rw [hidePaths, hc hopened, if_neg (by simp)]
      · rfl
    rw [List.flatMap_cons, ih, htext, hnext]
    rfl
  | path hpath hp hcs _ ih =>
    rw [List.flatMap_cons, ih, if_pos rfl, hidePaths_eq _ hpath, pathRun_append_of_ended hp hcs,
      List.drop_left]
    rfl

end Text

open Text

theorem toList_sanitizePaths (message : String) :
    (sanitizePaths message).toList = hidePaths message.toList := String.toList_ofList

/-- A sanitized message holds no absolute path, and sanitizing it again changes nothing. The message
has one cut, of which just the paths are replaced. So a stretch between blanks or quotes that holds no
absolute path, as a relative path does not, is left alone wherever it stands. -/
theorem sanitizePaths_replaces (message : String) :
    PathFree (sanitizePaths message).toList ∧
    sanitizePaths (sanitizePaths message) = sanitizePaths message ∧
    (∃ ps, (∀ qs, Cut true message.toList qs ↔ qs = ps) ∧
      ps.flatMap Stretch.text = message.toList ∧
      ps.flatMap Stretch.shown = (sanitizePaths message).toList) ∧
    ∀ before stretch after, message = before ++ stretch ++ after →
      (∀ c ∈ before.toList.getLast?, endsPath c = true) → Ended after.toList →
      PathFree stretch.toList →
      sanitizePaths message = sanitizePaths before ++ stretch ++ sanitizePaths after := by
  have hnone := mentionsPath_hidePaths message.toList
  obtain ⟨ps, hcut⟩ := exists_cut true message.toList
  refine ⟨?_, ?_, ⟨ps, fun qs => ⟨fun h => h.unique hcut, fun h => h ▸ hcut⟩, hcut.text, ?_⟩, ?_⟩
  · rwa [toList_sanitizePaths, pathFree_iff]
  · apply String.toList_injective
    rw [toList_sanitizePaths, toList_sanitizePaths, hidePaths_of_mentionsPath hnone]
  · rw [hcut.shown, if_pos rfl, toList_sanitizePaths]
  · rintro before stretch after rfl hbefore hafter hfree
    have hkept := hidePaths_of_mentionsPath (pathFree_iff.mp hfree)
    apply String.toList_injective
    simp only [String.toList_append, toList_sanitizePaths]
    rw [hidePaths_append_of_ended _ hafter, hidePaths_append_of_last _ hbefore, hkept]

/-- A root, paths with slashes of both kinds or at their ends, and a relative path. -/
example : sanitizePaths "cp / C:\\a/b\\ '/srv/c.md' (=/d x/e" = "cp <root> b 'c.md' (=d x/e" := by
  decide

end PromptWeave
