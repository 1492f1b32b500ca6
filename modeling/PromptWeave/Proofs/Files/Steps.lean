import PromptWeave.Files.Path
import PromptWeave.Proofs.Text

/-! The steps of a path.
A step is a part between slashes that leads somewhere, which empty parts and single dots do not.
Joining paths puts their steps in a row, and a path with a name is its parent and that name. -/
namespace PromptWeave

namespace Path

/-- Whether a part between slashes leads anywhere. -/
def isStep (part : List Char) : Bool := part ≠ [] && part ≠ ['.']

/-- The parts of a path text that lead somewhere. -/
def stepsOf (cs : List Char) : List (List Char) := (Text.splitAt '/' cs).filter isStep

@[simp] theorem stepsOf_nil : stepsOf [] = [] := rfl

@[simp] theorem stepsOf_append_slash (xs ys : List Char) :
    stepsOf (xs ++ '/' :: ys) = stepsOf xs ++ stepsOf ys := by
  simp [stepsOf, Text.splitAt_append]

theorem stepsOf_of_notMem {cs : List Char} (h : '/' ∉ cs) :
    stepsOf cs = if isStep cs then [cs] else [] := by
  simp [stepsOf, Text.splitAt_of_notMem h, List.filter_cons]

theorem filterMap_ofPart (parts : List (List Char)) :
    parts.filterMap ofPart =
      (parts.filter isStep).map fun s => if s = ['.', '.'] then .parent else .name s := by
  induction parts with
  | nil => rfl
  | cons part more ih =>
    by_cases hp : part = [] ∨ part = ['.']
    · have hs : isStep part = false := by rcases hp with rfl | rfl <;> rfl
      simp [ofPart, hp, hs, ih]
    · have hs : isStep part = true := by simpa [isStep] using hp
      rw [List.filterMap_cons, ofPart, if_neg hp]
      rw [List.filter_cons_of_pos hs, List.map_cons, ih]
      split_ifs <;> rfl

theorem stepsOf_reverse_slash (r : List Char) : stepsOf ('/' :: r).reverse = stepsOf r.reverse := by
  rw [List.reverse_cons, stepsOf_append_slash, stepsOf_nil, List.append_nil]

theorem stepsOf_reverse_dot_slash (r : List Char) :
    stepsOf ('.' :: '/' :: r).reverse = stepsOf r.reverse := by
  have hdot : stepsOf ['.'] = [] := by decide
  simp only [List.reverse_cons, List.append_assoc, List.cons_append, List.nil_append]
  rw [stepsOf_append_slash, hdot, List.append_nil]

theorem stepsOf_reverse_name {name rest : List Char} (hname : '/' ∉ name)
    (hstep : isStep name = true) (hrest : rest = [] ∨ ∃ more, rest = '/' :: more) :
    stepsOf (name.reverse ++ rest).reverse = stepsOf rest.reverse ++ [name] := by
  rcases hrest with rfl | ⟨more, rfl⟩
  · simp [stepsOf_of_notMem hname, hstep]
  · rw [stepsOf_reverse_slash]
    simp [stepsOf_of_notMem hname, hstep]

theorem eq_append_of_slash (r : List Char) :
    ∃ name rest : List Char, r = name.reverse ++ rest ∧ '/' ∉ name ∧
      (rest = [] ∨ ∃ more, rest = '/' :: more) := by
  induction r with
  | nil => exact ⟨[], [], rfl, by simp, Or.inl rfl⟩
  | cons c r ih =>
    obtain ⟨name, rest, hr, hname, hrest⟩ := ih
    by_cases hc : c = '/'
    · exact ⟨[], c :: r, rfl, by simp, Or.inr ⟨r, by rw [hc]⟩⟩
    · exact ⟨name ++ [c], rest, by simp [hr], by simp [hname, Ne.symm hc], hrest⟩

theorem dropTrailingRev_eq (r : List Char) :
    stepsOf r.reverse = [] ∨ ∃ name rest, dropTrailingRev r = name.reverse ++ rest ∧ '/' ∉ name ∧
      isStep name = true ∧ (rest = [] ∨ ∃ more, rest = '/' :: more) ∧
      stepsOf r.reverse = stepsOf rest.reverse ++ [name] := by
  fun_induction dropTrailingRev r with
  | case1 rest hrest =>
    left
    rw [List.isEmpty_iff.mp hrest]
    decide
  | case2 rest _ ih => simpa only [stepsOf_reverse_slash] using ih
  | case3 rest ih => simpa only [stepsOf_reverse_slash, stepsOf_reverse_dot_slash] using ih
  | case4 r hslash hdot =>
    obtain ⟨name, rest, hr, hname, hrest⟩ := eq_append_of_slash r
    by_cases hstep : isStep name = true
    · exact Or.inr ⟨name, rest, hr, hname, hstep, hrest,
        by rw [hr, stepsOf_reverse_name hname hstep hrest]⟩
    · left
      have hshort : name = [] ∨ name = ['.'] := by
        simp only [isStep, Bool.and_eq_true, decide_eq_true_eq, not_and, ne_eq,
          Decidable.not_not] at hstep
        by_cases hn : name = []
        · exact Or.inl hn
        · exact Or.inr (by simpa using hstep hn)
      rcases hshort with rfl | rfl
      · rcases hrest with rfl | ⟨more, rfl⟩
        · simp [hr]
        · exact absurd hr (hslash more)
      · rcases hrest with rfl | ⟨more, rfl⟩
        · rw [hr]
          decide
        · exact absurd hr (hdot more)

theorem dropTrailingRev_suffix (r : List Char) : dropTrailingRev r <:+ r := by
  fun_induction dropTrailingRev r with
  | case1 rest hrest => simp [List.isEmpty_iff.mp hrest]
  | case2 rest _ ih => exact ih.trans (List.suffix_cons '/' rest)
  | case3 rest ih => exact ih.trans (List.suffix_cons '.' ('/' :: rest))
  | case4 r => exact List.suffix_refl r

theorem dropTrailingRev_dropped (r : List Char) : ∃ dropped, r = dropped ++ dropTrailingRev r ∧
    (∀ c ∈ dropped, c = '/' ∨ c = '.') ∧
    ((∀ c ∈ dropped, c = '/') ∨ dropTrailingRev r = ['/'] ∨
      ∃ slashes more, dropped = slashes ++ '.' :: '/' :: more ∧ ∀ c ∈ slashes, c = '/') := by
  fun_induction dropTrailingRev r with
  | case1 rest hrest => exact ⟨[], by simp [List.isEmpty_iff.mp hrest], by simp, by simp⟩
  | case2 rest _ ih =>
    obtain ⟨dropped, hr, hall, hkind⟩ := ih
    refine ⟨'/' :: dropped, by rw [List.cons_append, ← hr], by simpa using hall, ?_⟩
    rcases hkind with hslashes | hroot | ⟨slashes, more, rfl, hslashes⟩
    · exact Or.inl (by simpa using hslashes)
    · exact Or.inr (Or.inl hroot)
    · exact Or.inr (Or.inr ⟨'/' :: slashes, more, rfl, by simpa using hslashes⟩)
  | case3 rest ih =>
    obtain ⟨dropped, hr, hall, -⟩ := ih
    refine ⟨'.' :: dropped, by rw [List.cons_append, ← hr], by simpa using hall, Or.inr ?_⟩
    by_cases hrest : rest = []
    · left
      simp [hrest, dropTrailingRev]
    · right
      have hdrop : dropTrailingRev ('/' :: rest) = dropTrailingRev rest := by
        simp [dropTrailingRev, hrest]
      have hshort := (dropTrailingRev_suffix rest).length_le
      cases dropped with
      | nil =>
        have hlength := congrArg List.length hr
        rw [hdrop] at hlength
        simp only [List.length_cons, List.nil_append] at hlength
        omega
      | cons c dropped =>
        have hc : '/' = c := (List.cons.inj hr).1
        exact ⟨[], dropped, by rw [hc]; rfl, by simp⟩
  | case4 r => exact ⟨[], by simp, by simp, by simp⟩

theorem dropTrailingRev_ne_nil {r : List Char} (h : r ≠ []) : dropTrailingRev r ≠ [] := by
  fun_induction dropTrailingRev r with
  | case1 => simp
  | case2 rest hrest ih => exact ih (by simpa using hrest)
  | case3 rest ih => exact ih (by simp)
  | case4 r => exact h

theorem dropTrailing_isPrefix (cs : List Char) : dropTrailing cs <+: cs := by
  simpa [dropTrailing] using List.reverse_prefix.mpr (dropTrailingRev_suffix cs.reverse)

theorem head?_dropTrailing (cs : List Char) : (dropTrailing cs).head? = cs.head? := by
  by_cases hcs : cs = []
  · rw [hcs]
    rfl
  · have hne : dropTrailing cs ≠ [] := by
      simpa [dropTrailing] using dropTrailingRev_ne_nil (r := cs.reverse) (by simpa using hcs)
    obtain ⟨tail, htail⟩ := dropTrailing_isPrefix cs
    obtain ⟨c, more, hc⟩ := List.exists_cons_of_ne_nil hne
    have hhead : cs.head? = some c := by
      rw [← htail, hc]
      rfl
    rw [hc, hhead]
    rfl

@[simp] theorem stepsOf_dropTrailing (cs : List Char) : stepsOf (dropTrailing cs) = stepsOf cs := by
  have hrev : ∀ r, stepsOf (dropTrailingRev r).reverse = stepsOf r.reverse := by
    intro r
    fun_induction dropTrailingRev r with
    | case1 rest hrest => rw [List.isEmpty_iff.mp hrest]
    | case2 rest _ ih => rw [ih, stepsOf_reverse_slash]
    | case3 rest ih => rw [ih, stepsOf_reverse_slash, stepsOf_reverse_dot_slash]
    | case4 r => rfl
  simpa [dropTrailing] using hrev cs.reverse

@[simp] theorem chars_ofChars (cs : List Char) : (ofChars cs).chars = cs := by
  simp [ofChars, chars]

theorem isAbsolute_ofChars (cs : List Char) : (ofChars cs).isAbsolute = (cs.head? == some '/') := by
  simp [isAbsolute]

/-! ### Joined paths -/

theorem isAbsolute_join (p q : Path) : (p.join q).isAbsolute = (p.isAbsolute || q.isAbsolute) := by
  unfold join
  by_cases hq : q.isAbsolute = true
  · simp [hq]
  · have hq' : q.isAbsolute = false := by simpa using hq
    by_cases hp : p.text = ""
    · simp [hp, isAbsolute, chars]
    · obtain ⟨c, cs, hc⟩ : ∃ c cs, p.text.toList = c :: cs :=
        List.exists_cons_of_ne_nil (by simpa using hp)
      split_ifs <;> simp [isAbsolute, chars, hc] at hq' ⊢ <;> simp_all

theorem join_eq_right_iff (p q : Path) : p.join q = q ↔ q.isAbsolute = true ∨ p.text = "" := by
  have hlong (s t : String) (hs : s ≠ "") : s ++ t ≠ t := by
    intro he
    have hl := congrArg String.length he
    have hpos : s.length ≠ 0 := by simpa using hs
    simp only [String.length_append] at hl
    omega
  unfold join
  split_ifs with hq hp hslash
  · simp [hq]
  · simp [hp]
  · exact iff_of_false (fun he => hlong p.text q.text hp (congrArg Path.text he)) (by simp [hq, hp])
  · exact iff_of_false (fun he => hlong (p.text ++ "/") q.text (by simp) (congrArg Path.text he))
      (by simp [hq, hp])

/-- What stands in front of a relative path that is seen from another. -/
def front (d : Path) : List Char :=
  if d.text = "" then []
  else if d.chars.getLast? = some '/' then d.chars
  else d.chars ++ ['/']

theorem chars_join (d : Path) {q : Path} (hq : q.isAbsolute = false) :
    (d.join q).chars = d.front ++ q.chars := by
  rw [join, if_neg (by simp [hq]), front]
  split_ifs <;> simp [chars]

theorem front_slash (d : Path) : d.front = [] ∨ ∃ more, d.front = more ++ ['/'] := by
  unfold front
  split_ifs with hd hslash
  · exact Or.inl rfl
  · exact Or.inr (List.getLast?_eq_some_iff.mp hslash)
  · exact Or.inr ⟨d.chars, rfl⟩

@[simp] theorem stepsOf_front (d : Path) : stepsOf d.front = stepsOf d.chars := by
  unfold front
  split_ifs with hd
  · simp [chars, hd]
  · rfl
  · simp

theorem splitAt_front_append (d : Path) : ∃ parts : List (List Char),
    ∀ cs, Text.splitAt '/' (d.front ++ cs) = parts ++ Text.splitAt '/' cs := by
  rcases d.front_slash with h | ⟨more, h⟩
  · exact ⟨[], fun cs => by rw [h]; rfl⟩
  · refine ⟨Text.splitAt '/' more, fun cs => ?_⟩
    rw [h, List.append_assoc]
    exact Text.splitAt_append '/' more cs

theorem stepsOf_front_append (d : Path) (cs : List Char) :
    stepsOf (d.front ++ cs) = stepsOf d.chars ++ stepsOf cs := by
  rw [← stepsOf_front]
  rcases d.front_slash with h | ⟨more, h⟩
  · simp [h]
  · simp [h, List.append_assoc]

/-! ### The final name -/

/-- Where a path leads: whether it starts at the root, and its steps. -/
def route (p : Path) : Bool × List (List Char) := (p.isAbsolute, stepsOf p.chars)

theorem route_join (d : Path) {q : Path} (hq : q.isAbsolute = false) :
    (d.join q).route = (d.isAbsolute, stepsOf d.chars ++ stepsOf q.chars) := by
  rw [route, isAbsolute_join, hq, Bool.or_false, chars_join d hq, stepsOf_front_append]

/-- A path joined to another leads where it leads alone when the other leads nowhere. -/
theorem route_join_eq_iff (d q : Path) :
    (d.join q).route = q.route ↔ q.isAbsolute = true ∨ d.route = (false, []) := by
  by_cases hq : q.isAbsolute = true
  · simp [(join_eq_right_iff d q).mpr (Or.inl hq), hq]
  · have hrel : q.isAbsolute = false := by simpa using hq
    rw [route_join d hrel, route, route, hrel]
    simp

theorem getLast?_components_of_fileName {p : Path} {s : List Char} (h : p.fileName = some s) :
    p.components.getLast? = some (.name s) := by
  unfold fileName at h
  split at h
  next name hname =>
    cases h
    exact hname
  next => cases h

theorem getLast?_stepsOf_of_fileName {p : Path} {s : List Char} (h : p.fileName = some s) :
    (stepsOf p.chars).getLast? = some s ∧ s ≠ ['.', '.'] := by
  have hname : ((Text.splitAt '/' p.chars).filterMap ofPart).getLast? = some (.name s) := by
    have hlast := getLast?_components_of_fileName h
    unfold components componentsOf at hlast
    dsimp only at hlast
    generalize (Text.splitAt '/' p.chars).filterMap ofPart = inner at hlast ⊢
    split_ifs at hlast
    · cases hi : inner.getLast? <;> simp_all [List.getLast?_cons]
    · cases hi : inner.getLast? <;> simp_all [List.getLast?_cons]
    · exact hlast
  rw [filterMap_ofPart, List.getLast?_map] at hname
  obtain ⟨last, hlast, hc⟩ := Option.map_eq_some_iff.mp hname
  split_ifs at hc with hd
  cases hc
  exact ⟨hlast, hd⟩

theorem parent_of_fileName {p : Path} {s : List Char} (h : p.fileName = some s) :
    ∃ before : List Char, dropTrailing p.chars = before ++ s ∧
      p.parent = some (ofChars (dropTrailing before)) ∧
      (before = [] ∨ ∃ more, before = more ++ ['/']) ∧ '/' ∉ s ∧ isStep s = true ∧
      s ≠ ['.', '.'] ∧ stepsOf p.chars = stepsOf before ++ [s] := by
  obtain ⟨hlast, hdots⟩ := getLast?_stepsOf_of_fileName h
  rcases dropTrailingRev_eq p.chars.reverse with
    hnil | ⟨name, rest, hdrop, hname, hstep, hrest, hsteps⟩
  · rw [List.reverse_reverse] at hnil
    simp [hnil] at hlast
  · rw [List.reverse_reverse] at hsteps
    have hs : name = s := by simpa [hsteps] using hlast
    subst hs
    have hbody : dropTrailing p.chars = rest.reverse ++ name := by simp [dropTrailing, hdrop]
    have hslash : rest.reverse = [] ∨ ∃ more, rest.reverse = more ++ ['/'] := by
      rcases hrest with rfl | ⟨more, rfl⟩
      · exact Or.inl rfl
      · exact Or.inr ⟨more.reverse, List.reverse_cons⟩
    have hcut : Text.dropLastWhile (· != '/') (dropTrailing p.chars) = rest.reverse := by
      rw [hbody, Text.dropLastWhile_append_of_all]
      · rcases hslash with hr | ⟨more, hr⟩
        · rw [hr]
          rfl
        · rw [hr]
          exact Text.dropLastWhile_concat more (by simp)
      · intro c hc
        have hne : c ≠ '/' := fun he => hname (he ▸ hc)
        simpa using hne
    refine ⟨rest.reverse, hbody, ?_, hslash, hname, hstep, hdots, hsteps⟩
    simp only [parent, getLast?_components_of_fileName h, hcut]

theorem chars_of_fileName {p : Path} (habs : p.isAbsolute = true) {s : List Char}
    (h : p.fileName = some s) :
    ∃ directories tail, p.chars = directories ++ '/' :: (s ++ tail) ∧ '/' ∉ s ∧ isStep s = true ∧
      (∀ c ∈ tail, c = '/' ∨ c = '.') ∧
      ((∀ c ∈ tail, c = '/') ∨ ∃ more slashes, tail = more ++ '/' :: '.' :: slashes ∧
        ∀ c ∈ slashes, c = '/') := by
  obtain ⟨before, hbody, -, hbefore, hname, hstep, -, -⟩ := parent_of_fileName h
  obtain ⟨dropped, hchars, hall, hkind⟩ := dropTrailingRev_dropped p.chars.reverse
  have hne : s ≠ [] := by
    rintro rfl
    exact absurd hstep (by decide)
  have htext : p.chars = before ++ s ++ dropped.reverse := by
    have hrev := congrArg List.reverse hchars
    rwa [List.reverse_reverse, List.reverse_append, ← dropTrailing, hbody] at hrev
  rcases hbefore with rfl | ⟨directories, rfl⟩
  · obtain ⟨c, cs, rfl⟩ := List.exists_cons_of_ne_nil hne
    have hc : c = '/' := by simpa [isAbsolute, htext] using habs
    simp [hc] at hname
  · refine ⟨directories, dropped.reverse, by simp [htext], hname, hstep, by simpa using hall, ?_⟩
    rcases hkind with hslashes | hroot | ⟨slashes, more, rfl, hslashes⟩
    · exact Or.inl (by simpa using hslashes)
    · rw [dropTrailing, hroot] at hbody
      have hmem : s.getLast hne ∈ ['/'] := by
        have hlast := List.mem_append_right (directories ++ ['/']) (List.getLast_mem hne)
        rw [← hbody] at hlast
        simpa using hlast
      rw [List.mem_singleton] at hmem
      exact absurd (hmem ▸ List.getLast_mem hne) hname
    · exact Or.inr ⟨more.reverse, slashes.reverse, by simp, by simpa using hslashes⟩

/-! ### Siblings -/

def sibling (p : Path) (name : List Char) : Path := (p.parent.getD ⟨""⟩).join (ofChars name)

theorem isAbsolute_ofChars_of_notMem {name : List Char} (h : '/' ∉ name) :
    (ofChars name).isAbsolute = false := by
  cases name with
  | nil => rfl
  | cons c cs =>
    have hc : c ≠ '/' := fun he => h (he ▸ List.mem_cons_self)
    simpa [isAbsolute_ofChars] using hc

theorem chars_sibling (p : Path) {name : List Char} (h : '/' ∉ name) :
    (p.sibling name).chars = (p.parent.getD ⟨""⟩).front ++ name := by
  rw [sibling, chars_join _ (isAbsolute_ofChars_of_notMem h), chars_ofChars]

theorem front_sublist {before : List Char} (h : before = [] ∨ ∃ more, before = more ++ ['/']) :
    (ofChars (dropTrailing before)).front.Sublist before := by
  have hprefix := dropTrailing_isPrefix before
  unfold front
  rw [chars_ofChars]
  split_ifs with hd hslash
  · exact List.nil_sublist before
  · exact hprefix.sublist
  · obtain ⟨rest, hrest⟩ := hprefix
    rcases h with hnil | ⟨more, hmore⟩
    · have hdrop : dropTrailing [] = [] := rfl
      simp [hnil, hdrop, ofChars] at hd
    · -- a slash was dropped, as the text ended in one
      have hmem : '/' ∈ rest := by
        rcases List.eq_nil_or_concat rest with rfl | ⟨init, last, rfl⟩
        · rw [List.append_nil] at hrest
          rw [hrest, hmore, List.getLast?_concat] at hslash
          exact absurd rfl hslash
        · have hlast := congrArg List.getLast? (hrest.trans hmore)
          simp only [List.concat_eq_append, ← List.append_assoc, List.getLast?_append,
            List.getLast?_singleton, Option.some_or, Option.some.injEq] at hlast
          simp [hlast]
      have hlonger := (List.singleton_sublist.mpr hmem).append_left (dropTrailing before)
      rwa [hrest] at hlonger

theorem folder_of_fileName {p : Path} {s : List Char} (h : p.fileName = some s) :
    '/' ∉ s ∧ isStep s = true ∧ s ≠ ['.', '.'] ∧
      stepsOf p.chars = stepsOf (p.parent.getD ⟨""⟩).chars ++ [s] ∧
      ((p.parent.getD ⟨""⟩).front ++ s).Sublist p.chars ∧
      (p.parent.getD ⟨""⟩).isAbsolute = p.isAbsolute := by
  obtain ⟨before, hbody, hparent, hslash, hname, hstep, hdots, hsteps⟩ := parent_of_fileName h
  rw [hparent, Option.getD_some, chars_ofChars, stepsOf_dropTrailing, isAbsolute_ofChars,
    head?_dropTrailing]
  refine ⟨hname, hstep, hdots, hsteps, ?front, ?absolute⟩
  case front =>
    have hbefore : (before ++ s).Sublist p.chars := hbody ▸ (dropTrailing_isPrefix p.chars).sublist
    exact ((front_sublist hslash).append_right s).trans hbefore
  case absolute =>
    have hhead : p.chars.head? = (before ++ s).head? := by rw [← hbody, head?_dropTrailing]
    rw [isAbsolute, hhead]
    cases before with
    | cons c cs => rfl
    | nil =>
      have hrel := isAbsolute_ofChars_of_notMem hname
      rw [isAbsolute_ofChars] at hrel
      simpa using hrel.symm

theorem isAbsolute_sibling {p : Path} {s name : List Char} (h : p.fileName = some s)
    (hname : '/' ∉ name) : (p.sibling name).isAbsolute = p.isAbsolute := by
  obtain ⟨-, -, -, -, -, habs⟩ := folder_of_fileName h
  rw [sibling, isAbsolute_join, isAbsolute_ofChars_of_notMem hname, Bool.or_false, habs]

theorem stepsOf_sibling (p : Path) {name : List Char} (hname : '/' ∉ name)
    (hstep : isStep name = true) :
    stepsOf (p.sibling name).chars = stepsOf (p.parent.getD ⟨""⟩).chars ++ [name] := by
  rw [chars_sibling p hname, stepsOf_front_append, stepsOf_of_notMem hname, if_pos hstep]

end Path
end PromptWeave
