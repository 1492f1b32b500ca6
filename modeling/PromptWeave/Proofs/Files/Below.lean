import Mathlib.Data.String.Basic
import PromptWeave.Proofs.Files.Walk

/-! Places below a directory.
Steps that never lead above their start stay below it as long as only directories stand there. So a
directory without files holds none of the paths that stay below it. -/
namespace PromptWeave

namespace Path

/-- Whether steps that start `depth` names below a directory never lead above it. -/
def descends : Nat → List (List Char) → Bool
  | _, [] => true
  | depth, step :: more =>
    if step = ['.', '.'] then 0 < depth && descends (depth - 1) more
    else descends (depth + 1) more

/-- Whether a path, seen from any directory, stays below it. -/
def staysBelow (p : Path) : Bool := !p.isAbsolute && descends 0 (stepsOf p.chars)

theorem descends_concat (depth : Nat) (steps : List (List Char)) {name : List Char}
    (hname : name ≠ ['.', '.']) : descends depth (steps ++ [name]) = descends depth steps := by
  induction steps generalizing depth with
  | nil => simp [descends, hname]
  | cons step more ih =>
    rw [List.cons_append, descends, descends]
    split_ifs
    · rw [ih]
    · rw [ih]

theorem staysBelow_sibling {p : Path} {s name : List Char} (h : p.fileName = some s)
    (hname : '/' ∉ name) (hstep : isStep name = true) (hdots : name ≠ ['.', '.']) :
    (p.sibling name).staysBelow = p.staysBelow := by
  obtain ⟨-, -, hs, hsteps, -, -⟩ := folder_of_fileName h
  rw [staysBelow, staysBelow, isAbsolute_sibling h hname, stepsOf_sibling p hname hstep, hsteps,
    descends_concat 0 _ hdots, descends_concat 0 _ hs]

end Path

namespace FileTree

theorem isSkip_ofList (part : List Char) :
    (String.ofList part = "" ∨ String.ofList part = ".") ↔ Path.isStep part = false := by
  have hempty : String.ofList part = "" ↔ part = [] := by simp
  have hdot : String.ofList part = String.ofList ['.'] ↔ part = ['.'] := String.ofList_inj
  change String.ofList part = "" ∨ String.ofList part = String.ofList ['.'] ↔ _
  rw [hempty, hdot]
  by_cases h : part = [] <;> simp [Path.isStep, h]

theorem ofList_eq_parent (part : List Char) : String.ofList part = ".." ↔ part = ['.', '.'] := by
  change String.ofList part = String.ofList ['.', '.'] ↔ _
  exact String.ofList_inj

theorem walk_ofList_cons (t : FileTree) (links : Nat) (place : List String) (part : List Char)
    (more : List (List Char)) :
    t.walk links place ((part :: more).map String.ofList) = match t.entry? place with
      | some .directory =>
        if Path.isStep part = false then t.walk links place (more.map String.ofList)
        else if part = ['.', '.'] then t.walk links place.dropLast (more.map String.ofList)
        else if nameLimit < (String.ofList part).utf8ByteSize then .error tooLong
        else match t.entry? (place ++ [String.ofList part]) with
          | some (.link target) => t.jump links place target (more.map String.ofList)
          | some _ => t.walk links (place ++ [String.ofList part]) (more.map String.ofList)
          | none => .error .notFound
      | some _ => .error .notADirectory
      | none => .error .notFound := by
  have hwalk := walk_cons t links place (String.ofList part) (more.map String.ofList)
  simp only [isSkip_ofList, ofList_eq_parent] at hwalk
  exact hwalk

def OnlyDirectories (t : FileTree) (root : List String) : Prop :=
  ∀ below e, t.entry? (root ++ below) = some e → e = .directory

/-- A walk that never leads above its start ends below it. -/
theorem walk_below {t : FileTree} {root : List String} (h : t.OnlyDirectories root) {links : Nat}
    {parts : List (List Char)} {below : List String}
    (hparts : Path.descends below.length (parts.filter Path.isStep) = true) {place : List String}
    (hw : t.walk links (root ++ below) (parts.map String.ofList) = .ok place) :
    ∃ below', place = root ++ below' := by
  induction parts generalizing below with
  | nil =>
    rw [List.map_nil, walk_nil] at hw
    cases hw
    exact ⟨below, rfl⟩
  | cons part more ih =>
    rw [walk_ofList_cons] at hw
    split at hw
    next =>
      split_ifs at hw with hstep hparent hlong
      · rw [List.filter_cons_of_neg (by simpa using hstep)] at hparts
        exact ih hparts hw
      · rw [List.filter_cons_of_pos (by simpa using hstep), Path.descends, if_pos hparent] at hparts
        -- below the start there is a name to drop
        simp only [Bool.and_eq_true, decide_eq_true_eq] at hparts
        have hne : below ≠ [] := List.ne_nil_of_length_pos hparts.1
        rw [List.dropLast_append_of_ne_nil hne] at hw
        refine ih ?_ hw
        rw [List.length_dropLast]
        exact hparts.2
      · rw [List.filter_cons_of_pos (by simpa using hstep), Path.descends, if_neg hparent] at hparts
        rw [List.append_assoc] at hw
        split at hw
        next target hlink => cases h _ _ hlink
        next => exact ih (by simpa using hparts) hw
        next => cases hw
    next => cases hw
    next => cases hw

/-- Nothing stands below a directory. -/
def Bare (t : FileTree) (root : List String) : Prop :=
  t.entry? root = some .directory ∧ ∀ below e, t.entry? (root ++ below) = some e → below = []

/-- From a directory with nothing below it, no path that starts with a name leads anywhere. -/
theorem walk_bare {t : FileTree} {root : List String} (h : t.Bare root) {links : Nat}
    {parts : List (List Char)} (hparts : Path.descends 0 (parts.filter Path.isStep) = true)
    (hstep : parts.filter Path.isStep ≠ [])
    (hshort : ∀ part ∈ parts, (String.ofList part).utf8ByteSize ≤ nameLimit) :
    t.walk links root (parts.map String.ofList) = .error .notFound := by
  induction parts with
  | nil => simp at hstep
  | cons part more ih =>
    rw [walk_ofList_cons, h.1]
    by_cases hs : Path.isStep part = true
    · rw [List.filter_cons_of_pos hs, Path.descends] at hparts
      have hdots : part ≠ ['.', '.'] := by
        intro he
        simp [he] at hparts
      have hnone : t.entry? (root ++ [String.ofList part]) = none := by
        cases he : t.entry? (root ++ [String.ofList part]) with
        | none => rfl
        | some e => simpa using h.2 _ _ he
      have hlimit : ¬ nameLimit < (String.ofList part).utf8ByteSize :=
        Nat.not_lt.mpr (hshort part List.mem_cons_self)
      simp [hs, hdots, hnone, hlimit]
    · rw [List.filter_cons_of_neg hs] at hparts hstep
      have hskip : Path.isStep part = false := by simpa using hs
      simpa [hskip] using ih hparts hstep fun q hq => hshort q (List.mem_cons_of_mem part hq)

/-! ### Directories without files -/

def startOf (working : List String) (p : Path) : List String := if p.isAbsolute then [] else working

theorem walk_of_follow_ok {t : FileTree} {working : List String} {p : Path} {place : List String}
    (h : t.follow working p = .ok place) :
    t.walk 40 (startOf working p) (partsOf p) = .ok place := by
  unfold follow at h
  split_ifs at h <;> simp_all [startOf]

theorem walk_of_follow_notFound {t : FileTree} {working : List String} {p : Path} (hp : p.text ≠ "")
    (h : t.follow working p = .error .notFound) :
    t.walk 40 (startOf working p) (partsOf p) = .error .notFound := by
  unfold follow at h
  split_ifs at h <;> simp_all [startOf, tooLong]

theorem clean_of_follow_ok {t : FileTree} {working : List String} {p : Path} {place : List String}
    (h : t.follow working p = .ok place) :
    '\x00' ∉ p.chars ∧ p.text.utf8ByteSize ≤ pathLimit := by
  unfold follow at h
  split_ifs at h <;> simp_all

/-- What has to be said of a path so that only its walk counts. -/
theorem follow_eq_walk {t : FileTree} {working : List String} {p : Path} (hp : p.text ≠ "")
    (hnul : '\x00' ∉ p.chars) (hshort : p.text.utf8ByteSize ≤ pathLimit) :
    t.follow working p = t.walk 40 (startOf working p) (partsOf p) := by
  simp [follow, startOf, hp, hnul, Nat.not_lt.mpr hshort]

/-- The walk along a joined path goes on from where the first path leads. -/
theorem partsOf_join (d : Path) : ∃ front : List String, ∀ q : Path, q.isAbsolute = false →
    partsOf (d.join q) = front ++ partsOf q := by
  obtain ⟨parts, hparts⟩ := d.splitAt_front_append
  refine ⟨parts.map String.ofList, fun q hq => ?_⟩
  rw [partsOf, Path.chars_join d hq, hparts, List.map_append]
  rfl

def placeOf (working : Path) : List String := (partsOf working).filter (· ≠ "")

/-- What is known of the place that a directory path leads to, unless it leads nowhere. -/
def AtDirectory (t : FileTree) (working : List String) (d : Path) (P : List String → Prop) : Prop :=
  match t.follow working (d.join ⟨"."⟩) with
  | .ok place => P place
  | .error e => e = .notFound

/-- No files and no links stand below a directory, if there is such a directory at all. -/
def HoldsNoFiles (t : FileTree) (working : List String) (d : Path) : Prop :=
  t.AtDirectory working d t.OnlyDirectories

def HoldsNothing (t : FileTree) (working : List String) (d : Path) : Prop :=
  t.AtDirectory working d t.Bare

theorem text_join_ne (d : Path) {q : Path} (hq : q.text ≠ "") (hrel : q.isAbsolute = false) :
    (d.join q).text ≠ "" := by
  intro he
  have hnil : (d.join q).chars = [] := by simp [Path.chars, he]
  rw [Path.chars_join d hrel] at hnil
  simp [Path.chars, hq] at hnil

theorem walk_join (t : FileTree) (working : List String) (d : Path) : ∃ front : List String,
    ∀ q : Path, q.isAbsolute = false →
      t.walk 40 (startOf working (d.join q)) (partsOf (d.join q)) =
        t.walk 40 (startOf working d) (front ++ partsOf q) := by
  obtain ⟨front, hfront⟩ := partsOf_join d
  refine ⟨front, fun q hq => ?_⟩
  have hstart : startOf working (d.join q) = startOf working d := by
    simp [startOf, Path.isAbsolute_join, hq]
  rw [hstart, hfront q hq]

theorem walk_of_atDirectory {t : FileTree} {working : List String} {d : Path}
    {P : List String → Prop} (h : t.AtDirectory working d P) :
    t.walk 40 (startOf working (d.join ⟨"."⟩)) (partsOf (d.join ⟨"."⟩)) = .error .notFound ∨
    ∃ place, P place ∧
      t.walk 40 (startOf working (d.join ⟨"."⟩)) (partsOf (d.join ⟨"."⟩)) = .ok place := by
  unfold AtDirectory at h
  split at h
  next place hplace => exact Or.inr ⟨place, h, walk_of_follow_ok hplace⟩
  next e hplace =>
    rw [h] at hplace
    exact Or.inl (walk_of_follow_notFound (text_join_ne d (by decide) (by decide)) hplace)

/-- Where a walk finds a directory, one that finds nothing there finds nothing behind it. -/
theorem walk_of_dot_notFound {t : FileTree} {links : Nat} {place : List String}
    (h : t.walk links place ["."] = .error .notFound) {parts : List String} (hparts : parts ≠ []) :
    t.walk links place parts = .error .notFound := by
  obtain ⟨part, more, rfl⟩ := List.exists_cons_of_ne_nil hparts
  rw [walk_cons] at h ⊢
  split at h
  next => simp at h
  next => cases h
  next => rfl

theorem place_of_walk_dot {t : FileTree} {links : Nat} {place r : List String}
    (h : t.walk links place ["."] = .ok r) : r = place := by
  rw [walk_cons] at h
  split at h
  · simpa using h.symm
  · cases h
  · cases h

/-- The walks to what stands below a directory either all find nothing or all start there. -/
theorem walks_below {t : FileTree} {working : List String} {d : Path} {P : List String → Prop}
    (h : t.AtDirectory working d P) :
    (∀ q : Path, q.isAbsolute = false →
      t.walk 40 (startOf working (d.join q)) (partsOf (d.join q)) = .error .notFound) ∨
    ∃ place left, P place ∧ ∀ q : Path, q.isAbsolute = false →
      t.walk 40 (startOf working (d.join q)) (partsOf (d.join q)) =
        t.walk left place (partsOf q) := by
  obtain ⟨front, hwalk⟩ := walk_join t working d
  have hlast : partsOf ⟨"."⟩ = ["."] := by decide
  have hself := walk_of_atDirectory h
  rw [hwalk ⟨"."⟩ (by decide), hlast] at hself
  rcases cut_walk t 40 (startOf working d) front with ⟨e, he⟩ | ⟨r, left, hr⟩
  · change ∀ qs, t.walk 40 (startOf working d) (front ++ qs) = .error e at he
    rw [he] at hself
    rcases hself with hnone | ⟨place, -, hplace⟩
    · exact Or.inl fun q hq => by rw [hwalk q hq, he, hnone]
    · cases hplace
  · change ∀ qs, t.walk 40 (startOf working d) (front ++ qs) = t.walk left r qs at hr
    rw [hr] at hself
    rcases hself with hnone | ⟨place, hP, hplace⟩
    · refine Or.inl fun q hq => ?_
      have hparts : partsOf q ≠ [] := by simpa [partsOf] using Text.splitAt_ne_nil '/' q.chars
      rw [hwalk q hq, hr, walk_of_dot_notFound hnone hparts]
    · cases place_of_walk_dot hplace
      exact Or.inr ⟨r, left, hP, fun q hq => by rw [hwalk q hq, hr]⟩

theorem isAbsolute_of_staysBelow {q : Path} (h : q.staysBelow = true) : q.isAbsolute = false := by
  simp only [Path.staysBelow, Bool.and_eq_true, Bool.not_eq_true'] at h
  exact h.1

theorem descends_of_staysBelow {q : Path} (h : q.staysBelow = true) :
    Path.descends 0 (Path.stepsOf q.chars) = true := by
  simp only [Path.staysBelow, Bool.and_eq_true] at h
  exact h.2

theorem reach_eq_ok {t : FileTree} {working place : List String} {p : Path} {e : FileEntry}
    (h : t.reach working p = .ok (place, e)) :
    t.follow working p = .ok place ∧ t.entry? place = some e := by
  unfold reach at h
  cases hplace : t.follow working p with
  | error err =>
    rw [hplace] at h
    cases h
  | ok place' =>
    rw [hplace] at h
    cases he : t.entry? place' with
    | none => simp [he, Bind.bind, Except.bind, throw, throwThe, MonadExceptOf.throw] at h
    | some e' =>
      simp only [he, Bind.bind, Except.bind, pure, Except.pure] at h
      cases h
      exact ⟨rfl, he⟩

theorem text_eq_ok {t : FileTree} {working : List String} {p : Path} {s : String}
    (h : t.text working p = .ok s) : ∃ place content,
      t.reach working p = .ok (place, .file content) ∧ String.fromUTF8? content = some s := by
  unfold text at h
  cases hreach : t.reach working p with
  | error err =>
    rw [hreach] at h
    cases h
  | ok r =>
    obtain ⟨place, e⟩ := r
    rw [hreach] at h
    cases e with
    | directory => cases h
    | link target => cases h
    | file content =>
      refine ⟨place, content, rfl, ?_⟩
      cases hs : String.fromUTF8? content with
      | none => simp [hs, Bind.bind, Except.bind, throw, throwThe, MonadExceptOf.throw] at h
      | some s' =>
        simp only [hs, Bind.bind, Except.bind, pure, Except.pure] at h
        cases h
        rfl

theorem isFile_of_text_ok {t : FileTree} {working : List String} {p : Path} {s : String}
    (h : t.text working p = .ok s) : t.isFile working p = .ok true := by
  obtain ⟨place, content, hreach, -⟩ := text_eq_ok h
  rw [isFile, hreach]
  rfl

theorem isFile_of_follow_error {t : FileTree} {working : List String} {p : Path} {e : OsError}
    (h : t.follow working p = .error e) : t.isFile working p = .error e := by
  rw [isFile, reach, h]
  rfl

/-- A path that stays below a directory without files leads to no file. -/
theorem text_join_ne_ok {t : FileTree} {working : List String} {d q : Path}
    (h : t.HoldsNoFiles working d) (hq : q.staysBelow = true) (s : String) :
    t.text working (d.join q) ≠ .ok s := by
  intro htext
  obtain ⟨place, content, hreach, -⟩ := text_eq_ok htext
  obtain ⟨hplace, hentry⟩ := reach_eq_ok hreach
  have hrel := isAbsolute_of_staysBelow hq
  have hwalk := walk_of_follow_ok hplace
  rcases walks_below h with hnone | ⟨root, left, honly, hbelow⟩
  · rw [hnone q hrel] at hwalk
    cases hwalk
  · rw [hbelow q hrel] at hwalk
    have hdescends : Path.descends ([] : List String).length
        ((Text.splitAt '/' q.chars).filter Path.isStep) = true := descends_of_staysBelow hq
    rw [← List.append_nil root] at hwalk
    obtain ⟨below, rfl⟩ := walk_below honly hdescends hwalk
    cases honly below _ hentry

/-- What every path has to satisfy that is looked up at all. -/
def WithinLimits (p : Path) : Prop :=
  '\x00' ∉ p.chars ∧ p.text.utf8ByteSize ≤ pathLimit ∧
    ∀ part ∈ Text.splitAt '/' p.chars, (String.ofList part).utf8ByteSize ≤ nameLimit

instance (p : Path) : Decidable (WithinLimits p) := by
  unfold WithinLimits
  infer_instance

theorem isFile_join_bare {t : FileTree} {working : List String} {d q : Path}
    (h : t.HoldsNothing working d) (hq : q.staysBelow = true) (hstep : Path.stepsOf q.chars ≠ [])
    (hlimits : WithinLimits (d.join q)) : t.isFile working (d.join q) = .error .notFound := by
  obtain ⟨hnul, hpath, hparts⟩ := hlimits
  have hrel := isAbsolute_of_staysBelow hq
  have hq' : q.text ≠ "" := by
    intro he
    simp [Path.chars, he] at hstep
  apply isFile_of_follow_error
  rw [follow_eq_walk (text_join_ne d hq' hrel) hnul hpath]
  rcases walks_below h with hnone | ⟨root, left, hbare, hbelow⟩
  · exact hnone q hrel
  · rw [hbelow q hrel]
    refine walk_bare hbare (descends_of_staysBelow hq) hstep fun part hpart => hparts part ?_
    obtain ⟨parts, hjoin⟩ := d.splitAt_front_append
    rw [Path.chars_join d hrel, hjoin]
    exact List.mem_append_right _ hpart

/-! ### A path and what stands beside it -/

/-- What leads nowhere before the last part is padding. -/
theorem pads_filter (parts : List (List Char)) (last : List Char) :
    Pads ((parts.filter Path.isStep ++ [last]).map String.ofList)
      ((parts ++ [last]).map String.ofList) := by
  induction parts with
  | nil => exact .refl _
  | cons part more ih =>
    by_cases hs : Path.isStep part = true
    · rw [List.filter_cons_of_pos hs]
      exact .step _ ih
    · have hskip : Path.isStep part = false := by simpa using hs
      rw [List.filter_cons_of_neg hs]
      obtain ⟨next, rest, hnext⟩ : ∃ next rest,
          (more.filter Path.isStep ++ [last]).map String.ofList = next :: rest :=
        List.exists_cons_of_ne_nil (by simp)
      rw [hnext] at ih ⊢
      exact .pass ((isSkip_ofList part).mpr hskip) next ih

/-- A walk that ends in an empty part or a single dot ends at a directory. -/
theorem entry?_of_walk_skip {t : FileTree} {links : Nat} {place parts : List String}
    {last : List Char} (hlast : Path.isStep last = false) {r : List String}
    (h : t.walk links place (parts ++ [String.ofList last]) = .ok r) :
    t.entry? r = some .directory := by
  rcases cut_walk t links place parts with ⟨e, he⟩ | ⟨r', left, hr⟩
  · cases h.symm.trans (he [String.ofList last])
  · have hend : t.walk left r' ([last].map String.ofList) = .ok r := (hr _).symm.trans h
    rw [walk_ofList_cons] at hend
    split at hend
    next hentry =>
      rw [if_pos hlast, List.map_nil, walk_nil] at hend
      cases hend
      exact hentry
    next => cases hend
    next => cases hend

/-- What follows the name of a file in its path is padding that a walk passes at directories only. -/
theorem walk_sibling {t : FileTree} {links : Nat} {start place : List String} {p : Path}
    {s : List Char} (hs : p.fileName = some s) (h : t.walk links start (partsOf p) = .ok place)
    (hfile : t.entry? place ≠ some .directory) :
    t.walk links start (partsOf (p.sibling s)) = .ok place := by
  obtain ⟨hname, hstep, -, hsteps, -, -⟩ := Path.folder_of_fileName hs
  obtain ⟨parts, hparts⟩ := (p.parent.getD ⟨""⟩).splitAt_front_append
  have hsib : Text.splitAt '/' (p.sibling s).chars = parts ++ [s] := by
    rw [Path.chars_sibling p hname, hparts, Text.splitAt_of_notMem hname]
  have hfilter : parts.filter Path.isStep = Path.stepsOf (p.parent.getD ⟨""⟩).chars := by
    have hsame := Path.stepsOf_sibling p hname hstep
    simpa [Path.stepsOf, hsib, hstep] using hsame
  rcases List.eq_nil_or_concat (Text.splitAt '/' p.chars) with hnil | ⟨init, last, hinit⟩
  · exact absurd hnil (Text.splitAt_ne_nil '/' p.chars)
  · rw [List.concat_eq_append] at hinit
    by_cases hlast : Path.isStep last = true
    · have hboth : init.filter Path.isStep ++ [last] = parts.filter Path.isStep ++ [s] := by
        simpa [Path.stepsOf, hinit, hlast, hfilter] using hsteps
      rw [partsOf, hinit, ← walk_pads (pads_filter init last), hboth] at h
      rw [partsOf, hsib, ← walk_pads (pads_filter parts s), h]
    · rw [partsOf, hinit, List.map_append, List.map_singleton] at h
      exact absurd (entry?_of_walk_skip (by simpa using hlast) h) hfile

/-- The file that a path leads to stands also where the name of the path stands beside it. -/
theorem follow_sibling {t : FileTree} {working place : List String} {p : Path} {s : List Char}
    (hs : p.fileName = some s) (h : t.follow working p = .ok place)
    (hfile : t.entry? place ≠ some .directory) : t.follow working (p.sibling s) = .ok place := by
  obtain ⟨hname, hstep, -, -, hshorter, -⟩ := Path.folder_of_fileName hs
  rw [← Path.chars_sibling p hname] at hshorter
  obtain ⟨hnul, hsize⟩ := clean_of_follow_ok h
  have hshort : (p.sibling s).text.utf8ByteSize ≤ p.text.utf8ByteSize := by
    rw [← (p.sibling s).text.ofList_toList, ← p.text.ofList_toList, String.utf8ByteSize_ofList,
      String.utf8ByteSize_ofList]
    exact String.utf8Len_le_of_sublist hshorter
  have htext : (p.sibling s).text ≠ "" := by
    intro he
    have hnil : (p.sibling s).chars = [] := by simp [Path.chars, he]
    rw [Path.chars_sibling p hname] at hnil
    simp_all [Path.isStep]
  rw [follow_eq_walk htext (fun hmem => hnul (hshorter.subset hmem)) (hshort.trans hsize), startOf,
    Path.isAbsolute_sibling hs hname]
  exact walk_sibling hs (walk_of_follow_ok h) hfile

theorem text_sibling {t : FileTree} {working : List String} {p : Path} {s : List Char}
    {text : String} (hs : p.fileName = some s) (h : t.text working p = .ok text) :
    t.text working (p.sibling s) = .ok text := by
  obtain ⟨place, content, hreach, -⟩ := text_eq_ok h
  obtain ⟨hplace, hentry⟩ := reach_eq_ok hreach
  have hsame : t.reach working (p.sibling s) = t.reach working p := by
    rw [reach, reach, hplace, follow_sibling hs hplace (by simp [hentry])]
  rw [FileTree.text, hsame]
  exact h

end FileTree
end PromptWeave
