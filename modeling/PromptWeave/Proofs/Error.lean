import PromptWeave.Error
import PromptWeave.Proofs.Files.Steps
import PromptWeave.Proofs.Sanitize

/-! Messages without directories.
The path in a message is looked for in the text of the message, where blanks and quotes end it. So it
is cut down to its name only when its directories hold none of them. -/
namespace PromptWeave

namespace Text

theorem word_or_cut (cs : List Char) : (∀ c ∈ cs, endsPath c = false) ∨
    ∃ w q rest, cs = w ++ q :: rest ∧ (∀ c ∈ w, endsPath c = false) ∧ endsPath q = true := by
  induction cs with
  | nil => exact Or.inl (by simp)
  | cons c cs ih =>
    by_cases hc : endsPath c = true
    · exact Or.inr ⟨[], c, cs, rfl, by simp, hc⟩
    · have hc' : endsPath c = false := by simpa using hc
      rcases ih with hall | ⟨w, q, rest, rfl, hw, hq⟩
      · exact Or.inl (List.forall_mem_cons.mpr ⟨hc', hall⟩)
      · exact Or.inr ⟨c :: w, q, rest, rfl, List.forall_mem_cons.mpr ⟨hc', hw⟩, hq⟩

theorem hidePaths_of_word {path : List Char} (hpath : atPath path = true)
    (h : ∀ c ∈ path, endsPath c = false) : hidePaths path = lastComponent path := by
  rw [hidePaths_eq path hpath, pathRun_of_word h, List.drop_length]
  simp [hidePathsFrom]

end Text

namespace Path
open Text

/-- When a path is cut down to its name and nothing else. No directory has a blank or a quote. The
name does not begin with one, its first word has no backslash, and no drive path is in it. What
stands behind the name are slashes, and nothing if the name has several words. -/
def ShownAsName (path name : List Char) : Prop :=
  ∃ directories slashes, path = directories ++ '/' :: (name ++ slashes) ∧
    (∀ c ∈ directories, endsPath c = false) ∧ (∀ c ∈ slashes, c = '/') ∧
    (slashes = [] ∨ ∀ c ∈ name, endsPath c = false) ∧
    pathRun name ≠ [] ∧ '\\' ∉ pathRun name ∧ holdsPath name = false

theorem atPath_of_isAbsolute {p : Path} (h : p.isAbsolute = true) : atPath p.chars = true := by
  cases hc : p.chars with
  | nil => simp [isAbsolute, hc] at h
  | cons c cs =>
    have hslash : c = '/' := by simpa [isAbsolute, hc] using h
    simp [atPath_cons, hslash]

theorem isSlash_of_forall {cs : List Char} (h : ∀ c ∈ cs, c = '/') : ∀ c ∈ cs, isSlash c = true := by
  intro c hc
  simp [h c hc, isSlash]

theorem not_isSlash_of_notMem {cs : List Char} (hslash : '/' ∉ cs) (hback : '\\' ∉ cs) :
    ∀ c ∈ cs, isSlash c = false := by
  intro c hc
  have hne : c ≠ '/' := fun he => hslash (he ▸ hc)
  have hne' : c ≠ '\\' := fun he => hback (he ▸ hc)
  simp [isSlash, hne, hne']

theorem not_endsPath_of_parts {directories name tail : List Char}
    (hdirectories : ∀ c ∈ directories, endsPath c = false) (hname : ∀ c ∈ name, endsPath c = false)
    (htail : ∀ c ∈ tail, endsPath c = false) :
    ∀ c ∈ directories ++ '/' :: (name ++ tail), endsPath c = false := by
  rw [List.forall_mem_append, List.forall_mem_cons, List.forall_mem_append]
  exact ⟨hdirectories, by decide, hname, htail⟩

theorem hidePaths_word {directories word slashes : List Char}
    (habs : atPath (directories ++ '/' :: (word ++ slashes)) = true)
    (hdirectories : ∀ c ∈ directories, endsPath c = false) (hslashes : ∀ c ∈ slashes, c = '/')
    (hword : ∀ c ∈ word, endsPath c = false) (hne : word ≠ []) (hslash : '/' ∉ word)
    (hback : '\\' ∉ word) : hidePaths (directories ++ '/' :: (word ++ slashes)) = word := by
  have hends : ∀ c ∈ slashes, endsPath c = false := fun c hc => by
    rw [hslashes c hc]
    decide
  have hall := not_endsPath_of_parts hdirectories hword hends
  rw [hidePaths_of_word habs hall]
  exact lastComponent_append directories hne (not_isSlash_of_notMem hslash hback)
    (isSlash_of_forall hslashes)

theorem hidePaths_of_shownAsName {p : Path} (habs : p.isAbsolute = true) {name : List Char}
    (hname : '/' ∉ name) (h : ShownAsName p.chars name) : hidePaths p.chars = name := by
  obtain ⟨directories, slashes, hchars, hdirectories, hslashes, hkind, hne, hback, hholds⟩ := h
  have hpath := atPath_of_isAbsolute habs
  rw [hchars] at hpath ⊢
  rcases word_or_cut name with hword | ⟨w, q, rest, rfl, hw, hq⟩
  · rw [pathRun_of_word hword] at hne hback
    exact hidePaths_word hpath hdirectories hslashes hword hne hname hback
  · have hnil : slashes = [] := by
      refine hkind.resolve_right fun hall => ?_
      have hfalse := hall q (by simp)
      simp [hq] at hfalse
    have hcut : directories ++ '/' :: (w ++ q :: rest ++ slashes) =
        (directories ++ '/' :: (w ++ [])) ++ q :: rest := by simp [hnil]
    have hslash : '/' ∉ w := fun hmem => hname (by simp [hmem])
    rw [pathRun_append hq, pathRun_of_word hw] at hne hback
    rw [holdsPath_append hq, Bool.or_eq_false_iff] at hholds
    rw [hcut, atPath_append hq] at hpath
    rw [hcut, hidePaths_append hq,
      hidePaths_word hpath hdirectories (by simp) hw hne hslash hback,
      hidePathsFrom_of_holdsPath hholds.2]

theorem words_of_hidePaths {directories name tail : List Char}
    (h : hidePaths (directories ++ '/' :: (name ++ tail)) = name) :
    ∀ c ∈ directories, endsPath c = false := by
  have hcount := countP_endsPath_hidePaths (directories ++ '/' :: (name ++ tail))
  rw [h] at hcount
  simp only [List.countP_append, List.countP_cons] at hcount
  have hnone : directories.countP endsPath = 0 := by omega
  simpa [List.countP_eq_zero] using hnone

/-- Of a name of several words the first is shown as it is and the rest is left alone. -/
theorem shown_of_cut {directories w rest tail : List Char} {q : Char}
    (hdirectories : ∀ c ∈ directories, endsPath c = false) (hw : ∀ c ∈ w, endsPath c = false)
    (hq : endsPath q = true)
    (habs : atPath (directories ++ '/' :: (w ++ q :: rest ++ tail)) = true)
    (h : hidePaths (directories ++ '/' :: (w ++ q :: rest ++ tail)) = w ++ q :: rest) :
    lastComponent (directories ++ '/' :: w) = w ∧
      hidePathsFrom 0 (q :: rest ++ tail) = q :: rest := by
  have hfront : ∀ c ∈ directories ++ '/' :: w, endsPath c = false := by
    simpa using not_endsPath_of_parts hdirectories hw (List.forall_mem_nil _)
  have hcut : directories ++ '/' :: (w ++ q :: rest ++ tail) =
      (directories ++ '/' :: w) ++ q :: (rest ++ tail) := by simp
  rw [hcut, atPath_append hq] at habs
  rw [hcut, hidePaths_append hq, hidePaths_of_word habs hfront] at h
  have hshown : hidePathsFrom 0 (q :: (rest ++ tail)) = q :: hidePaths (rest ++ tail) :=
    hidePathsFrom_cons (opensPath_of_endsPath hq) _
  -- both sides are cut at the same place, behind the first word
  have hrun := congrArg pathRun h
  rw [hshown, pathRun_append hq, pathRun_append hq, pathRun_of_word hw, pathRun_of_word
    (fun c hc => not_endsPath_of_mem_lastComponent hfront hc)] at hrun
  rw [hrun] at h
  exact ⟨hrun, List.append_cancel_left h⟩

theorem shownAsName_of_hidePaths {p : Path} (habs : p.isAbsolute = true) {name : List Char}
    (hname : p.fileName = some name) (h : hidePaths p.chars = name) :
    ShownAsName p.chars name := by
  obtain ⟨directories, tail, hchars, hslash, hstep, htail, hkind⟩ := chars_of_fileName habs hname
  have hpath := atPath_of_isAbsolute habs
  rw [hchars] at hpath h
  have hdirectories := words_of_hidePaths h
  have htailword : ∀ c ∈ tail, endsPath c = false := by
    intro c hc
    rcases htail c hc with rfl | rfl <;> decide
  rcases word_or_cut name with hword | ⟨w, q, rest, rfl, hw, hq⟩
  · have hall := not_endsPath_of_parts hdirectories hword htailword
    rw [hidePaths_of_word hpath hall] at h
    have hback : '\\' ∉ name := h ▸ notMem_lastComponent _
    have hslashes : ∀ c ∈ tail, c = '/' := by
      refine hkind.resolve_right ?_
      rintro ⟨more, slashes, rfl, hslashes⟩
      have hcut : directories ++ '/' :: (name ++ (more ++ '/' :: '.' :: slashes)) =
          (directories ++ '/' :: (name ++ more)) ++ '/' :: (['.'] ++ slashes) := by simp
      have hdot : ∀ c ∈ ['.'], isSlash c = false := List.forall_mem_singleton.mpr (by decide)
      rw [hcut, lastComponent_append _ (by simp) hdot (isSlash_of_forall hslashes)] at h
      rw [← h] at hstep
      exact absurd hstep (by decide)
    have hne : name ≠ [] := h ▸ lastComponent_ne_nil _
    exact ⟨directories, tail, hchars, hdirectories, hslashes, Or.inr hword,
      (pathRun_of_word hword).symm ▸ hne, (pathRun_of_word hword).symm ▸ hback,
      holdsPath_of_notMem hslash hback⟩
  · obtain ⟨hlast, hrest⟩ := shown_of_cut hdirectories hw hq hpath h
    have hback : '\\' ∉ w := hlast ▸ notMem_lastComponent _
    have hne : w ≠ [] := hlast ▸ lastComponent_ne_nil _
    have hslashw : '/' ∉ w := fun hmem => hslash (by simp [hmem])
    have hslashrest : '/' ∉ q :: rest := fun hmem => hslash (List.mem_append_right w hmem)
    have hbacktail : '\\' ∉ tail := by
      intro hmem
      rcases htail _ hmem with he | he <;> exact absurd he (by decide)
    obtain ⟨hnil, hholds⟩ := eq_nil_of_hidePathsFrom hslashrest hbacktail hrest
    refine ⟨directories, [], by rw [hchars, hnil], hdirectories, by simp, Or.inl rfl, ?_⟩
    rw [pathRun_append hq, pathRun_of_word hw, holdsPath_append hq, hholds,
      holdsPath_of_notMem hslashw hback]
    exact ⟨hne, hback, rfl⟩

/-- A path is cut down to its name exactly when it is written so that it can be. -/
theorem hidePaths_eq_iff {p : Path} (habs : p.isAbsolute = true) {name : List Char}
    (hname : p.fileName = some name) : hidePaths p.chars = name ↔ ShownAsName p.chars name := by
  obtain ⟨-, -, -, hslash, -⟩ := chars_of_fileName habs hname
  exact ⟨shownAsName_of_hidePaths habs hname, hidePaths_of_shownAsName habs hslash⟩

end Path

namespace Error
open Text

/-! ### Messages that quote a path -/

theorem toList_message_fileRead (p : Path) (cause : OsError) :
    (fileRead p cause).message.toList =
      "failed to read ".toList ++ '\'' :: (p.chars ++ '\'' :: ':' :: ' ' :: cause.message.toList) := by
  have hbefore : "failed to read '".toList = "failed to read ".toList ++ ['\''] := by decide
  have hafter : "': ".toList = ['\'', ':', ' '] := by decide
  have hmessage : (fileRead p cause).message =
      "failed to read '" ++ p.text ++ "': " ++ cause.message := rfl
  simp only [hmessage, String.toList_append, hbefore, hafter, Path.chars, List.append_assoc,
    List.cons_append, List.nil_append]

theorem toList_message_overrideNotAllowed (p : Path) :
    (overrideNotAllowed p).message.toList = "full override ".toList ++
      '\'' :: (p.chars ++ '\'' :: " found but full overrides are disabled".toList) := by
  have hbefore : "full override '".toList = "full override ".toList ++ ['\''] := by decide
  have hafter : "' found but full overrides are disabled".toList =
      '\'' :: " found but full overrides are disabled".toList := by decide
  have hmessage : (overrideNotAllowed p).message =
      "full override '" ++ p.text ++ "' found but full overrides are disabled" := rfl
  simp only [hmessage, String.toList_append, hbefore, hafter, Path.chars, List.append_assoc,
    List.cons_append, List.nil_append]

theorem hidePaths_quoted {before after : List Char} (hbefore : hidePaths before = before)
    (hafter : holdsPath ('\'' :: after) = false) (cs : List Char) :
    hidePaths (before ++ '\'' :: (cs ++ '\'' :: after)) =
      before ++ '\'' :: (hidePaths cs ++ '\'' :: after) := by
  have hquote : endsPath '\'' = true := by decide
  rw [hidePaths_append hquote, hbefore, hidePathsFrom_cons (opensPath_of_endsPath hquote),
    hidePaths_append hquote, hidePathsFrom_of_holdsPath hafter]

theorem holdsPath_cause {cause : OsError} (h : mentionsPath cause.message.toList = false) :
    holdsPath ('\'' :: ':' :: ' ' :: cause.message.toList) = false := by
  rw [mentionsPath, Bool.or_eq_false_iff] at h
  have hcolon : opensPath ':' = false := by decide
  have hletter : isAsciiLetter ':' = false := by decide
  simp [holdsPath, atPath_cons, h, hcolon, hletter]

theorem sanitized_fileRead (p : Path) {cause : OsError}
    (h : mentionsPath cause.message.toList = false) :
    (fileRead p cause).sanitized = (fileRead (.ofChars (hidePaths p.chars)) cause).message := by
  have hbefore : hidePaths "failed to read ".toList = "failed to read ".toList := by decide
  apply String.toList_injective
  rw [sanitized, sanitizePaths, String.toList_ofList, toList_message_fileRead,
    hidePaths_quoted hbefore (holdsPath_cause h), toList_message_fileRead, Path.chars_ofChars]

theorem sanitized_overrideNotAllowed (p : Path) :
    (overrideNotAllowed p).sanitized =
      (overrideNotAllowed (.ofChars (hidePaths p.chars))).message := by
  have hbefore : hidePaths "full override ".toList = "full override ".toList := by decide
  have hafter : holdsPath ('\'' :: " found but full overrides are disabled".toList) = false := by
    decide
  apply String.toList_injective
  rw [sanitized, sanitizePaths, String.toList_ofList, toList_message_overrideNotAllowed,
    hidePaths_quoted hbefore hafter, toList_message_overrideNotAllowed, Path.chars_ofChars]

theorem message_fileRead_inj {a b : List Char} {cause : OsError} :
    (fileRead (.ofChars a) cause).message = (fileRead (.ofChars b) cause).message ↔ a = b := by
  rw [← String.toList_inj, toList_message_fileRead, toList_message_fileRead]
  simp

theorem message_overrideNotAllowed_inj {a b : List Char} :
    (overrideNotAllowed (.ofChars a)).message = (overrideNotAllowed (.ofChars b)).message ↔
      a = b := by
  rw [← String.toList_inj, toList_message_overrideNotAllowed, toList_message_overrideNotAllowed]
  simp

/-- Hiding directories makes the message about a path the message about its name exactly when the path
is written so that its name alone is shown. -/
theorem sanitized_eq_iff {p : Path} {name : List Char} (habs : p.isAbsolute = true)
    (hname : p.fileName = some name) :
    (∀ cause : OsError, mentionsPath cause.message.toList = false →
      ((fileRead p cause).sanitized = (fileRead (.ofChars name) cause).message ↔
        Path.ShownAsName p.chars name)) ∧
    ((overrideNotAllowed p).sanitized = (overrideNotAllowed (.ofChars name)).message ↔
      Path.ShownAsName p.chars name) := by
  constructor
  · intro cause hcause
    rw [sanitized_fileRead p hcause, message_fileRead_inj, Path.hidePaths_eq_iff habs hname]
  · rw [sanitized_overrideNotAllowed, message_overrideNotAllowed_inj,
      Path.hidePaths_eq_iff habs hname]

/-- A name of two words in directories of one word each. -/
theorem sanitized_eq_iff_notes :
    (Path.mk "/home/ann/my notes.md").isAbsolute = true ∧
    (Path.mk "/home/ann/my notes.md").fileName = some "my notes.md".toList ∧
    mentionsPath (OsError.message .notFound).toList = false ∧
    (fileRead ⟨"/home/ann/my notes.md"⟩ .notFound).sanitized =
      (fileRead ⟨"my notes.md"⟩ .notFound).message ∧
    (overrideNotAllowed ⟨"/home/ann/my notes.md"⟩).sanitized =
      (overrideNotAllowed ⟨"my notes.md"⟩).message := by
  have habs : (Path.mk "/home/ann/my notes.md").isAbsolute = true := by decide
  have hname : (Path.mk "/home/ann/my notes.md").fileName = some "my notes.md".toList := by decide
  have hcause : mentionsPath (OsError.message .notFound).toList = false := by decide
  have hdirectories : "/home/ann".toList.any endsPath = false := by decide
  have hshown : Path.ShownAsName (Path.mk "/home/ann/my notes.md").chars "my notes.md".toList :=
    ⟨"/home/ann".toList, [], by decide, by simpa using List.any_eq_false.mp hdirectories, by simp,
      Or.inl rfl, by decide, by decide, by decide⟩
  obtain ⟨hread, hoverride⟩ := sanitized_eq_iff habs hname
  exact ⟨habs, hname, hcause, (hread .notFound hcause).mpr hshown, hoverride.mpr hshown⟩

/-- A directory with a blank in its name is shown. -/
theorem directory_not_hidden :
    ¬ ∀ (p : Path) (name : List Char) (cause : OsError), p.isAbsolute = true →
      p.fileName = some name → mentionsPath cause.message.toList = false →
        (fileRead p cause).sanitized = (fileRead (.ofChars name) cause).message := by
  intro hall
  have hshown := hall ⟨"/srv/my docs/a.md"⟩ "a.md".toList .notFound (by decide) (by decide)
    (by decide)
  exact absurd hshown (by decide)

end Error
end PromptWeave
