import PromptWeave.Files.Override
import PromptWeave.Proofs.Files.Attempts
import PromptWeave.Proofs.Lists

/-! What override directories make of a section.
Each directory has changes of its own, which do not depend on the section, and the changes of all
directories are made in a row. -/
namespace PromptWeave

namespace Files

def presentAt (files : FileSystem) (p : Path) : Except Error Bool :=
  match files.isFile p with
  | .ok _ => .ok true
  | .error .notFound => .ok false
  | .error e => .error (.fileRead p e)

theorem result_present (files : FileSystem) (p : Path) :
    (present p).result files = presentAt files p := rfl

end Files

namespace Markdown

def parsedAt (files : FileSystem) (o : Options) (p : Path) : Except Error Section :=
  ((files.text p).mapError (Error.fileRead p)).map (parse o)

theorem result_parseFile (files : FileSystem) (o : Options) (p : Path) :
    (parseFile o p).result files = parsedAt files o p := by
  rw [parseFile, Attempt.result_bind, parsedAt]
  change ((files.text p).mapError (Error.fileRead p)).bind _ = _
  cases files.text p <;> rfl

end Markdown

namespace Overrides

def sectionAt? (files : FileSystem) (parser : Markdown.Options) (p : Path) :
    Except Error (Option Section) := do
  if ← Files.presentAt files p then return some (← Markdown.parsedAt files parser p)
  else return Option.none

/-- The section that replaces all others, if there is one and it may. -/
def fullAt? (o : Overrides) (files : FileSystem) (parser : Markdown.Options) (p : Path) :
    Except Error (Option Section) := do
  if ← Files.presentAt files p then
    if o.allowFull then return some (← Markdown.parsedAt files parser p)
    else throw (.overrideNotAllowed p)
  else return Option.none

def itemsAt (files : FileSystem) (parser : Markdown.Options) (p : Path) :
    Except Error (List SectionItem) :=
  (sectionAt? files parser p).map fun s => (s.map Section.items).getD []

/-- What one directory has for a section: a section in its place, and items around it. -/
structure Changes where
  full : Option Section
  before : List SectionItem
  after : List SectionItem

def Changes.apply (c : Changes) (s : Section) : Section :=
  { c.full.getD s with items := c.before ++ (c.full.getD s).items ++ c.after }

/-- The changes in one directory, or the first of its files that may not be used. -/
def changesIn (o : Overrides) (files : FileSystem) (parser : Markdown.Options) (names : Names)
    (directory : Path) : Except Error Changes := do
  return ⟨← o.fullAt? files parser (directory.join names.full),
    ← itemsAt files parser (directory.join names.before),
    ← itemsAt files parser (directory.join names.after)⟩

variable (files : FileSystem) (parser : Markdown.Options)

theorem result_change (p : Path) (f : Section → Section → Section) (s : Section) :
    (change parser p f s).result files =
      (sectionAt? files parser p).map fun t => (t.map (f s)).getD s := by
  rw [change, Attempt.result_bind, Files.result_present, sectionAt?]
  rcases Files.presentAt files p with e | _ | _
  · rfl
  · rfl
  · change (Markdown.parseFile parser p >>= fun t => pure (f s t)).result files = _
    rw [Attempt.result_bind, Markdown.result_parseFile]
    cases Markdown.parsedAt files parser p <;> rfl

theorem result_replace (o : Overrides) (p : Path) (s : Section) :
    (o.replace parser p s).result files =
      (o.fullAt? files parser p).map fun t => t.getD s := by
  rw [replace, Attempt.result_bind, Files.result_present, fullAt?]
  rcases Files.presentAt files p with e | _ | _
  · rfl
  · rfl
  · change (if o.allowFull = true then Markdown.parseFile parser p
      else throw (Error.overrideNotAllowed p) : Attempt Section).result files = _
    cases hfull : o.allowFull
    · rfl
    · change (Markdown.parseFile parser p).result files = _
      rw [Markdown.result_parseFile]
      cases Markdown.parsedAt files parser p <;> rfl

/-- One directory makes its changes to whatever section it is given. -/
theorem result_customizeIn (o : Overrides) (names : Names) (s : Section) (d : Path) :
    (o.customizeIn parser names s d).result files =
      (o.changesIn files parser names d).map fun c => c.apply s := by
  rw [customizeIn, Attempt.result_bind, result_replace, changesIn]
  cases o.fullAt? files parser (d.join names.full) with
  | error e => rfl
  | ok full =>
    change (change parser (d.join names.before) Section.prependFrom (full.getD s) >>=
      fun s => change parser (d.join names.after) Section.extendFrom s).result files = _
    rw [Attempt.result_bind, result_change, itemsAt]
    cases sectionAt? files parser (d.join names.before) with
    | error e => rfl
    | ok before =>
      change (change parser (d.join names.after) Section.extendFrom
        ((before.map (full.getD s).prependFrom).getD (full.getD s))).result files = _
      rw [result_change, itemsAt]
      cases sectionAt? files parser (d.join names.after) with
      | error e => rfl
      | ok after =>
        cases before <;> cases after <;>
          simp [Changes.apply, Section.prependFrom, Section.extendFrom, Except.map, Bind.bind,
            Except.bind, pure, Except.pure]

theorem result_foldlM (o : Overrides) (names : Names) (ds : List Path) (s : Section) :
    (ds.foldlM (o.customizeIn parser names) s).result files =
      (ds.mapM (o.changesIn files parser names)).map fun cs =>
        cs.foldl (fun s c => c.apply s) s := by
  induction ds generalizing s with
  | nil => rfl
  | cons d ds ih =>
    rw [List.foldlM_cons, Attempt.result_bind, result_customizeIn, List.mapM_cons]
    cases o.changesIn files parser names d with
    | error e => rfl
    | ok c =>
      change (ds.foldlM (o.customizeIn parser names) (c.apply s)).result files = _
      rw [ih]
      change _ = ((ds.mapM (o.changesIn files parser names)).bind fun cs => .ok (c :: cs)).map _
      cases ds.mapM (o.changesIn files parser names) <;> rfl

/-- Every directory has its changes, or the first that has none says why. -/
theorem customize_eq_ok {o : Overrides} {p : Path} {names : Names} (hn : names? p = some names)
    {s s' : Section} : (o.customize parser p s).result files = .ok s' ↔
      ∃ changes, List.Forall₂ (fun d c => o.changesIn files parser names d = .ok c) o.directories
        changes ∧ changes.foldl (fun s c => c.apply s) s = s' := by
  have hcustomize : o.customize parser p s =
      o.directories.foldlM (o.customizeIn parser names) s := by
    rw [customize, hn]
  rw [hcustomize, result_foldlM]
  cases hc : o.directories.mapM (o.changesIn files parser names) with
  | error e =>
    have hnone : ∀ cs, ¬ List.Forall₂ (fun d c => o.changesIn files parser names d = .ok c)
        o.directories cs := by
      intro cs hcs
      cases hc.symm.trans (mapM_eq_ok.mpr hcs)
    simp [Except.map, hnone]
  | ok cs =>
    constructor
    · intro h
      cases h
      exact ⟨cs, mapM_eq_ok.mp hc, rfl⟩
    · rintro ⟨cs', hcs, rfl⟩
      cases hc.symm.trans (mapM_eq_ok.mpr hcs)
      rfl

/-- Each full override starts anew, so of equal changes only the last count. -/
theorem Changes.foldl_replicate_of_full {c : Changes} {t : Section} (h : c.full = some t) (n : Nat)
    (s : Section) : (List.replicate (n + 1) c).foldl (fun s c => c.apply s) s =
      { t with items := c.before ++ t.items ++ c.after } := by
  have hlaid : ∀ x, c.apply x = { t with items := c.before ++ t.items ++ c.after } := by
    intro x
    rw [apply, h, Option.getD_some]
  rw [List.replicate_succ, List.foldl_cons, hlaid, foldl_replicate_of_eq (hlaid _)]

/-- What is laid over a file that is its own full override keeps it only if nothing is added. -/
theorem Changes.around_eq_iff {c : Changes} {s : Section} :
    { s with items := c.before ++ s.items ++ c.after } = s ↔ c.before = [] ∧ c.after = [] := by
  constructor
  · intro h
    have hlength := congrArg (fun x => x.items.length) h
    simp only [List.length_append] at hlength
    have hbefore : c.before.length = 0 := by omega
    have hafter : c.after.length = 0 := by omega
    exact ⟨List.length_eq_zero_iff.mp hbefore, List.length_eq_zero_iff.mp hafter⟩
  · rintro ⟨hbefore, hafter⟩
    simp [hbefore, hafter]

/-! ### Directories without changes -/

/-- The paths of the files that change a file, seen from an override directory. -/
def Names.all (n : Names) : List Path := [n.full, n.before, n.after]

theorem presentAt_eq_false {files : FileSystem} {p : Path} :
    Files.presentAt files p = .ok false ↔ files.isFile p = .error .notFound := by
  unfold Files.presentAt
  split <;> simp_all

theorem presentAt_of_noText {files : FileSystem} {parser : Markdown.Options} {p : Path}
    (htext : ∀ text, files.text p ≠ .ok text) {r : Option Section}
    (h : sectionAt? files parser p = .ok r) : Files.presentAt files p = .ok false := by
  unfold sectionAt? at h
  rcases hp : Files.presentAt files p with e | _ | _
  · rw [hp] at h
    cases h
  · rfl
  · rw [hp, Markdown.parsedAt] at h
    cases ht : files.text p with
    | error e =>
      rw [ht] at h
      cases h
    | ok text => exact absurd ht (htext text)

theorem sectionAt?_of_absent {files : FileSystem} {parser : Markdown.Options} {p : Path}
    (h : Files.presentAt files p = .ok false) : sectionAt? files parser p = .ok Option.none := by
  rw [sectionAt?, h]
  rfl

theorem sectionAt?_of_itemsAt {files : FileSystem} {parser : Markdown.Options} {p : Path}
    {items : List SectionItem} (h : itemsAt files parser p = .ok items) :
    ∃ r, sectionAt? files parser p = .ok r := by
  unfold itemsAt at h
  cases hs : sectionAt? files parser p with
  | error e =>
    rw [hs] at h
    cases h
  | ok r => exact ⟨r, rfl⟩

theorem fullAt?_eq_ok {o : Overrides} {files : FileSystem} {parser : Markdown.Options} {p : Path}
    {r : Option Section} : o.fullAt? files parser p = .ok r ↔
      sectionAt? files parser p = .ok r ∧ (r = Option.none ∨ o.allowFull = true) := by
  unfold fullAt? sectionAt?
  rcases Files.presentAt files p with e | _ | _
  · simp [Bind.bind, Except.bind]
  · simp only [Bind.bind, Except.bind, pure, Except.pure, Bool.false_eq_true, if_false,
      Except.ok.injEq]
    exact ⟨fun h => ⟨h, Or.inl h.symm⟩, fun h => h.1⟩
  · cases ho : o.allowFull <;> cases hp : Markdown.parsedAt files parser p <;>
      simp [Bind.bind, Except.bind, pure, Except.pure, throw, throwThe, MonadExceptOf.throw]
    rintro rfl
    simp

theorem changesIn_eq_ok {o : Overrides} {files : FileSystem} {parser : Markdown.Options}
    {names : Names} {d : Path} {c : Changes} : o.changesIn files parser names d = .ok c ↔
      o.fullAt? files parser (d.join names.full) = .ok c.full ∧
        itemsAt files parser (d.join names.before) = .ok c.before ∧
        itemsAt files parser (d.join names.after) = .ok c.after := by
  unfold changesIn
  cases o.fullAt? files parser (d.join names.full) with
  | error e => simp [Bind.bind, Except.bind]
  | ok full =>
    cases itemsAt files parser (d.join names.before) with
    | error e => simp [Bind.bind, Except.bind]
    | ok before =>
      cases itemsAt files parser (d.join names.after) with
      | error e => simp [Bind.bind, Except.bind]
      | ok after => cases c; simp [Bind.bind, Except.bind, pure, Except.pure]

theorem absent_of_changesIn {o : Overrides} {files : FileSystem} {parser : Markdown.Options}
    {names : Names} {d : Path} {c : Changes}
    (htext : ∀ q ∈ names.all, ∀ text, files.text (d.join q) ≠ .ok text)
    (h : o.changesIn files parser names d = .ok c) :
    ∀ q ∈ names.all, files.isFile (d.join q) = .error .notFound := by
  intro q hq
  obtain ⟨hfull, hbefore, hafter⟩ := changesIn_eq_ok.mp h
  have hsection : ∃ r, sectionAt? files parser (d.join q) = .ok r := by
    simp only [Names.all, List.mem_cons, List.not_mem_nil, or_false] at hq
    rcases hq with rfl | rfl | rfl
    · exact ⟨_, (fullAt?_eq_ok.mp hfull).1⟩
    · exact sectionAt?_of_itemsAt hbefore
    · exact sectionAt?_of_itemsAt hafter
  obtain ⟨r, hr⟩ := hsection
  exact presentAt_eq_false.mp (presentAt_of_noText (htext q hq) hr)

def Changes.nothing : Changes := ⟨Option.none, [], []⟩

@[simp] theorem Changes.nothing_apply (s : Section) : Changes.nothing.apply s = s := by
  simp [Changes.nothing, Changes.apply]

theorem changesIn_of_absent {o : Overrides} {files : FileSystem} {parser : Markdown.Options}
    {names : Names} {d : Path} (h : ∀ q ∈ names.all, files.isFile (d.join q) = .error .notFound) :
    o.changesIn files parser names d = .ok Changes.nothing := by
  have hnone : ∀ q ∈ names.all, sectionAt? files parser (d.join q) = .ok Option.none :=
    fun q hq => sectionAt?_of_absent (presentAt_eq_false.mpr (h q hq))
  apply changesIn_eq_ok.mpr
  refine ⟨fullAt?_eq_ok.mpr ⟨hnone names.full (by simp [Names.all]), Or.inl rfl⟩, ?_, ?_⟩
  · rw [itemsAt, hnone names.before (by simp [Names.all])]
    rfl
  · rw [itemsAt, hnone names.after (by simp [Names.all])]
    rfl

end Overrides
end PromptWeave
