import PromptWeave.Proofs.Text
import PromptWeave.Text.Sanitize

/-! Texts with their absolute paths hidden.
A blank or a quote cuts a text in two that are rewritten apart from each other. All blanks and quotes
are kept, and no backslash is added. -/
namespace PromptWeave
namespace Text

/-- Whether an absolute path stands behind a character that it may follow. -/
def holdsPath : List Char → Bool
  | [] => false
  | c :: cs => (opensPath c && atPath cs) || holdsPath cs

def mentionsPath (cs : List Char) : Bool := atPath cs || holdsPath cs

/-! ### What ends a path -/

theorem not_endsPath_of_letter {c : Char} (h : isAsciiLetter c = true) : endsPath c = false := by
  have hrange : (97 ≤ c.toNat ∧ c.toNat ≤ 122) ∨ (65 ≤ c.toNat ∧ c.toNat ≤ 90) := by
    simp only [isAsciiLetter, Bool.or_eq_true, Bool.and_eq_true, decide_eq_true_eq] at h
    exact h
  have hsingle : c ≠ '\'' := by
    rintro rfl
    revert hrange
    decide
  have hdouble : c ≠ '"' := by
    rintro rfl
    revert hrange
    decide
  have hblank : isBlank c = false := by
    simp only [isBlank, Bool.or_eq_false_iff, Bool.and_eq_false_iff, decide_eq_false_iff_not,
      beq_eq_false_iff_ne]
    omega
  simp [endsPath, hblank, hsingle, hdouble]

theorem opensPath_of_endsPath {c : Char} (h : endsPath c = true) : opensPath c = true := by
  simp [opensPath, h]

theorem atPath_cons (c : Char) (cs : List Char) :
    atPath (c :: cs) = (c == '/' || (isAsciiLetter c && [':', '\\'].isPrefixOf cs)) := by
  unfold atPath
  split
  next h =>
    cases h
    rfl
  next d more hd h =>
    cases h
    have hne : c ≠ '/' := fun he => hd he
    simp [hne]
  next hslash hletter =>
    have hne : c ≠ '/' := fun he => hslash cs (by rw [he])
    by_cases hdrive : [':', '\\'].isPrefixOf cs = true
    · obtain ⟨more, rfl⟩ := List.isPrefixOf_iff_prefix.mp hdrive
      exact absurd rfl (hletter c more)
    · simp [hne, hdrive]

theorem isPrefixOf_append_of_notMem {p : List Char} {q : Char} (h : q ∉ p) (cs rest : List Char) :
    p.isPrefixOf (cs ++ q :: rest) = p.isPrefixOf cs := by
  induction p generalizing cs with
  | nil => simp
  | cons d p ih =>
    have hd : d ≠ q := fun he => h (by simp [he])
    cases cs with
    | nil => simp [List.isPrefixOf, hd]
    | cons c cs => simp [List.isPrefixOf, ih (fun hp => h (List.mem_cons_of_mem d hp))]

theorem pathRun_of_word {cs : List Char} (h : ∀ c ∈ cs, endsPath c = false) : pathRun cs = cs := by
  rw [pathRun, List.takeWhile_eq_self_iff]
  simpa using h

theorem pathRun_of_atPath {cs : List Char} (h : atPath cs = true) :
    ∃ c run, pathRun cs = c :: run ∧ ('/' ∈ cs.head? ∨ '\\' ∈ run) := by
  cases cs with
  | nil => simp [atPath] at h
  | cons c cs =>
    rw [atPath_cons, Bool.or_eq_true, Bool.and_eq_true] at h
    rcases h with hslash | ⟨hletter, hdrive⟩
    · have hc : c = '/' := by simpa using hslash
      have hends : endsPath '/' = false := by decide
      exact ⟨'/', pathRun cs, by simp [pathRun, hc, hends], Or.inl (by simp [hc])⟩
    · obtain ⟨more, rfl⟩ := List.isPrefixOf_iff_prefix.mp hdrive
      have hends := not_endsPath_of_letter hletter
      have hcolon : endsPath ':' = false := by decide
      have hback : endsPath '\\' = false := by decide
      exact ⟨c, ':' :: '\\' :: pathRun more, by simp [pathRun, hends, hcolon, hback],
        Or.inr (by simp)⟩

/-! ### What is shown of a path -/

theorem lastComponent_ne_nil (path : List Char) : lastComponent path ≠ [] := by
  unfold lastComponent
  simp only
  split_ifs with h
  · decide
  · simpa using h

theorem not_isSlash_of_mem_lastComponent {path : List Char} {c : Char}
    (h : c ∈ lastComponent path) : isSlash c = false := by
  unfold lastComponent at h
  simp only at h
  split_ifs at h with hempty
  · have hroot : rootName.any isSlash = false := by decide
    simpa using List.any_eq_false.mp hroot c h
  · have hmem := List.mem_takeWhile_imp (List.mem_reverse.mp h)
    simpa using hmem

theorem notMem_lastComponent (path : List Char) : '\\' ∉ lastComponent path := by
  intro h
  exact absurd (not_isSlash_of_mem_lastComponent h) (by decide)

theorem not_endsPath_of_mem_lastComponent {path : List Char}
    (hpath : ∀ c ∈ path, endsPath c = false) {c : Char} (h : c ∈ lastComponent path) :
    endsPath c = false := by
  unfold lastComponent at h
  simp only at h
  split_ifs at h with hempty
  · have hroot : rootName.any endsPath = false := by decide
    simpa using List.any_eq_false.mp hroot c h
  · have hbody : c ∈ dropLastWhile isSlash path := by
      simpa using (List.takeWhile_sublist _).subset (List.mem_reverse.mp h)
    exact hpath c ((dropLastWhile_sublist isSlash path).subset hbody)

theorem lastComponent_append {name slashes : List Char} (before : List Char) (hne : name ≠ [])
    (hname : ∀ c ∈ name, isSlash c = false) (hslashes : ∀ c ∈ slashes, isSlash c = true) :
    lastComponent (before ++ '/' :: (name ++ slashes)) = name := by
  obtain ⟨init, last, rfl⟩ := (List.eq_nil_or_concat name).resolve_left hne
  rw [List.concat_eq_append] at hname ⊢
  have hbody : dropLastWhile isSlash (before ++ '/' :: (init ++ [last] ++ slashes)) =
      before ++ '/' :: init ++ [last] := by
    have hassoc : before ++ '/' :: (init ++ [last] ++ slashes) =
        before ++ '/' :: init ++ [last] ++ slashes := by simp
    rw [hassoc, dropLastWhile_append_of_all _ hslashes]
    exact dropLastWhile_concat _ (hname last (by simp))
  have hrun : ((before ++ '/' :: init ++ [last]).reverse.takeWhile fun c => !isSlash c) =
      (init ++ [last]).reverse := by
    have hreverse : (before ++ '/' :: init ++ [last]).reverse =
        (init ++ [last]).reverse ++ '/' :: before.reverse := by simp
    have hall : ∀ c ∈ (init ++ [last]).reverse, (!isSlash c) = true := by
      intro c hc
      simpa using hname c (List.mem_reverse.mp hc)
    rw [hreverse, List.takeWhile_append_of_pos hall]
    simp [isSlash]
  rw [lastComponent]
  simp only [hbody, hrun, List.reverse_reverse]
  simp

/-! ### Rewriting a text in parts -/

theorem hidePathsFrom_eq (n : Nat) (cs : List Char) :
    hidePathsFrom n cs = hidePathsFrom 0 (cs.drop n) := by
  induction cs generalizing n with
  | nil => cases n <;> simp [hidePathsFrom]
  | cons c cs ih =>
    cases n with
    | zero => rfl
    | succ n => rw [hidePathsFrom, ih, List.drop_succ_cons]

theorem hidePaths_eq (cs : List Char) (h : atPath cs = true) :
    hidePaths cs = lastComponent (pathRun cs) ++ hidePathsFrom 0 (cs.drop (pathRun cs).length) := by
  rw [hidePaths, if_pos h, hidePathsFrom_eq]

theorem pathRun_append_drop (cs : List Char) : pathRun cs ++ cs.drop (pathRun cs).length = cs := by
  have hprefix : pathRun cs <+: cs := List.takeWhile_prefix _
  exact List.prefix_iff_eq_append.mp hprefix

theorem hidePathsFrom_of_holdsPath {cs : List Char} (h : holdsPath cs = false) :
    hidePathsFrom 0 cs = cs := by
  induction cs with
  | nil => rfl
  | cons c cs ih =>
    rw [holdsPath, Bool.or_eq_false_iff] at h
    rw [hidePathsFrom, if_neg (by simp [h.1]), ih h.2]

theorem hidePathsFrom_cons {c : Char} (h : opensPath c = true) (cs : List Char) :
    hidePathsFrom 0 (c :: cs) = c :: hidePaths cs := by
  rw [hidePathsFrom, hidePaths, h, Bool.true_and]
  split_ifs <;> rfl

section
variable {q : Char} (hq : endsPath q = true) (rest : List Char)
include hq

theorem atPath_append (cs : List Char) : atPath (cs ++ q :: rest) = atPath cs := by
  have hne : q ∉ ['/', ':', '\\'] := by
    intro hmem
    have hends : ['/', ':', '\\'].any endsPath = false := by decide
    exact List.any_eq_false.mp hends q hmem hq
  cases cs with
  | nil =>
    have hletter : isAsciiLetter q = false := by
      by_contra h
      simp [not_endsPath_of_letter (by simpa using h)] at hq
    have hslash : q ≠ '/' := fun he => hne (by simp [he])
    have hnil : atPath [] = false := rfl
    rw [List.nil_append, atPath_cons, hnil]
    simp [hletter, hslash]
  | cons c cs =>
    rw [List.cons_append, atPath_cons, atPath_cons,
      isPrefixOf_append_of_notMem (fun h => hne (List.mem_cons_of_mem _ h))]

theorem pathRun_append (cs : List Char) : pathRun (cs ++ q :: rest) = pathRun cs := by
  induction cs with
  | nil => simp [pathRun, hq]
  | cons c cs ih =>
    have ih' : List.takeWhile (fun c => !endsPath c) (cs ++ q :: rest) =
        List.takeWhile (fun c => !endsPath c) cs := ih
    simp only [pathRun, List.cons_append, List.takeWhile_cons, ih']

theorem holdsPath_append (cs : List Char) :
    holdsPath (cs ++ q :: rest) = (holdsPath cs || holdsPath (q :: rest)) := by
  induction cs with
  | nil => rfl
  | cons c cs ih =>
    rw [List.cons_append, holdsPath, holdsPath, ih, atPath_append hq, Bool.or_assoc]

/-- What stands before a blank or a quote is rewritten apart from what follows. -/
theorem hidePathsFrom_append (cs : List Char) : ∀ n ≤ cs.length,
    hidePathsFrom n (cs ++ q :: rest) = hidePathsFrom n cs ++ hidePathsFrom 0 (q :: rest) := by
  induction cs with
  | nil =>
    intro n hn
    have hzero : n = 0 := by simpa using hn
    simp [hzero, hidePathsFrom]
  | cons c cs ih =>
    intro n hn
    cases n with
    | succ n => exact ih n (by simpa using hn)
    | zero =>
      have hrun : (pathRun cs).length ≤ cs.length := (List.takeWhile_prefix _).length_le
      rw [List.cons_append, hidePathsFrom, hidePathsFrom, atPath_append hq, pathRun_append hq,
        ih _ hrun, ih 0 (Nat.zero_le _)]
      split_ifs <;> simp

theorem hidePaths_append (cs : List Char) :
    hidePaths (cs ++ q :: rest) = hidePaths cs ++ hidePathsFrom 0 (q :: rest) := by
  have hrun : (pathRun cs).length ≤ cs.length := (List.takeWhile_prefix _).length_le
  rw [hidePaths, hidePaths, atPath_append hq, pathRun_append hq, hidePathsFrom_append hq rest cs _ hrun,
    hidePathsFrom_append hq rest cs 0 (Nat.zero_le _)]
  split_ifs <;> simp

end

/-! ### What is kept -/

theorem countP_endsPath_hidePathsFrom (n : Nat) (cs : List Char) :
    (hidePathsFrom n cs).countP endsPath = (cs.drop n).countP endsPath := by
  fun_induction hidePathsFrom n cs with
  | case1 n => simp
  | case2 n c cs ih => simpa using ih
  | case3 c cs h ih =>
    have hrun : (pathRun cs).countP endsPath = 0 := by
      rw [List.countP_eq_zero]
      intro d hd
      simpa using List.mem_takeWhile_imp hd
    have hlast : (lastComponent (pathRun cs)).countP endsPath = 0 := by
      rw [List.countP_eq_zero]
      intro d hd
      have hends := not_endsPath_of_mem_lastComponent
        (fun e he => by simpa using List.mem_takeWhile_imp he) hd
      simp [hends]
    have hsplit := congrArg (List.countP endsPath) (pathRun_append_drop cs)
    rw [List.countP_append, hrun, Nat.zero_add] at hsplit
    simp only [List.drop_zero, List.cons_append, List.countP_cons, List.countP_append, hlast, ih,
      hsplit, Nat.zero_add]
  | case4 c cs h ih => simpa [List.countP_cons] using ih

theorem countP_endsPath_hidePaths (cs : List Char) :
    (hidePaths cs).countP endsPath = cs.countP endsPath := by
  have hquote : opensPath '"' = true := by decide
  have hcons := countP_endsPath_hidePathsFrom 0 ('"' :: cs)
  rw [hidePathsFrom_cons hquote] at hcons
  simpa [List.countP_cons] using hcons

theorem count_hidePathsFrom_le (n : Nat) (cs : List Char) :
    (hidePathsFrom n cs).count '\\' ≤ (cs.drop n).count '\\' := by
  fun_induction hidePathsFrom n cs with
  | case1 n => simp
  | case2 n c cs ih => simpa using ih
  | case3 c cs h ih =>
    have hlast := List.count_eq_zero.mpr (notMem_lastComponent (pathRun cs))
    have hsplit := congrArg (List.count '\\') (pathRun_append_drop cs)
    rw [List.count_append] at hsplit
    simp only [List.drop_zero, List.cons_append, List.count_cons, List.count_append, hlast]
    omega
  | case4 c cs h ih =>
    simp only [List.drop_zero, List.count_cons] at ih ⊢
    omega

/-- A text that holds no slash mentions no path from the root, and none from a drive without a
backslash. -/
theorem holdsPath_of_notMem {cs : List Char} (hslash : '/' ∉ cs) (hback : '\\' ∉ cs) :
    holdsPath cs = false := by
  induction cs with
  | nil => rfl
  | cons c cs ih =>
    have hslash' : '/' ∉ cs := fun h => hslash (List.mem_cons_of_mem c h)
    have hback' : '\\' ∉ cs := fun h => hback (List.mem_cons_of_mem c h)
    have hpath : atPath cs = false := by
      by_contra h
      obtain ⟨d, run, hrun, hkind⟩ := pathRun_of_atPath (by simpa using h)
      rcases hkind with hhead | hmem
      · exact hslash' (List.mem_of_mem_head? hhead)
      · have hsub := (List.takeWhile_sublist _).subset (hrun ▸ List.mem_cons_of_mem d hmem)
        exact hback' hsub
    simp [holdsPath, hpath, ih hslash' hback']

/-- Where only the end of a text is hidden, nothing is hidden at all. -/
theorem eq_nil_of_hidePathsFrom {cs tail : List Char} (hcs : '/' ∉ cs) (htail : '\\' ∉ tail)
    (h : hidePathsFrom 0 (cs ++ tail) = cs) : tail = [] ∧ holdsPath cs = false := by
  induction cs with
  | nil =>
    cases tail with
    | nil => exact ⟨rfl, rfl⟩
    | cons c tail =>
      rw [List.nil_append, hidePathsFrom] at h
      split_ifs at h
      all_goals simp at h
  | cons c cs ih =>
    have hcs' : '/' ∉ cs := fun hmem => hcs (List.mem_cons_of_mem c hmem)
    rw [List.cons_append, hidePathsFrom] at h
    split_ifs at h with hopens
    · have htexts : lastComponent (pathRun (cs ++ tail)) ++
          hidePathsFrom (pathRun (cs ++ tail)).length (cs ++ tail) = cs := (List.cons.inj h).2
      obtain ⟨d, run, hrun, hkind⟩ := pathRun_of_atPath (by simp_all : atPath (cs ++ tail) = true)
      exfalso
      rcases hkind with hhead | hback
      · cases cs with
        | nil => exact lastComponent_ne_nil _ (List.append_eq_nil_iff.mp htexts).1
        | cons e cs =>
          have he : e = '/' := by simpa using hhead
          simp [he] at hcs'
      · -- the run has a backslash that is shown nowhere
        have hshown := congrArg (List.count '\\') htexts
        have hless := count_hidePathsFrom_le (pathRun (cs ++ tail)).length (cs ++ tail)
        have hsplit := congrArg (List.count '\\') (pathRun_append_drop (cs ++ tail))
        have hpos : 0 < (pathRun (cs ++ tail)).count '\\' :=
          List.count_pos_iff.mpr (hrun ▸ List.mem_cons_of_mem d hback)
        have hlast := List.count_eq_zero.mpr (notMem_lastComponent (pathRun (cs ++ tail)))
        have hnone : tail.count '\\' = 0 := List.count_eq_zero.mpr htail
        simp only [List.count_append] at hshown hsplit
        omega
    · obtain ⟨hnil, hholds⟩ := ih hcs' (List.cons.inj h).2
      refine ⟨hnil, ?_⟩
      rw [hnil, List.append_nil] at hopens
      rw [holdsPath, hholds, Bool.or_false]
      simpa using hopens

end Text
end PromptWeave
