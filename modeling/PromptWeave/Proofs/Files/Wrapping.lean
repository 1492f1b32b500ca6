import PromptWeave.Files.Tree
import PromptWeave.Proofs.Files.Changes

/-! What the override directories put around a section.
Every directory puts its items outside those of the directories before it, so the items in front
stand in reverse order. A full override makes all that came before it of no account. -/
namespace PromptWeave

namespace Overrides

theorem names?_eq_none_iff {p : Path} : names? p = .none ↔ p.fileName = .none := by
  cases h : p.fileName <;> simp [names?, Path.stem, h]

/-- Nothing is at a path, or a text that can be read. -/
def Legible (files : FileSystem) (p : Path) : Prop :=
  files.isFile p = .error .notFound ∨
    (files.isFile p).isOk = true ∧ (files.text p).isOk = true

def writtenAt? (files : FileSystem) (parser : Markdown.Options) (p : Path) : Option Section :=
  match files.isFile p, files.text p with
  | .ok _, .ok text => some (Markdown.parse parser text)
  | _, _ => .none

def writtenItems (files : FileSystem) (parser : Markdown.Options) (p : Path) : List SectionItem :=
  ((writtenAt? files parser p).map Section.items).getD []

/-- A section inside the items that the directories have for it, those of the last outermost. -/
def wrap (found : Path → Changes) (ds : List Path) (s : Section) : Section :=
  { s with items := (ds.reverse.flatMap fun d => (found d).before) ++ s.items ++
      ds.flatMap fun d => (found d).after }

theorem wrap_cons (found : Path → Changes) (d : Path) (ds : List Path) (s : Section) :
    wrap found (d :: ds) s =
      wrap found ds { s with items := (found d).before ++ s.items ++ (found d).after } := by
  simp [wrap]

/-! ### One directory -/

def Names.written (names : Names) (files : FileSystem) (parser : Markdown.Options) (d : Path) :
    Changes where
  full := writtenAt? files parser (d.join names.full)
  before := writtenItems files parser (d.join names.before)
  after := writtenItems files parser (d.join names.after)

variable {files : FileSystem} {parser : Markdown.Options} {o : Overrides} {names : Names}

theorem sectionAt?_of_legible {p : Path} (h : Legible files p) :
    sectionAt? files parser p = .ok (writtenAt? files parser p) := by
  rcases h with hnone | ⟨hfile, htext⟩
  · have habsent : Files.presentAt files p = .ok false := presentAt_eq_false.mpr hnone
    rw [sectionAt?_of_absent habsent, writtenAt?, hnone]
  · cases hb : files.isFile p with
    | error e => simp [hb, Except.isOk, Except.toBool] at hfile
    | ok b =>
      cases ht : files.text p with
      | error e => simp [ht, Except.isOk, Except.toBool] at htext
      | ok text =>
        simp [sectionAt?, Files.presentAt, Markdown.parsedAt, writtenAt?, hb, ht, Bind.bind,
          Except.bind, Except.map, Except.mapError, pure, Except.pure]

theorem itemsAt_of_legible {p : Path} (h : Legible files p) :
    itemsAt files parser p = .ok (writtenItems files parser p) := by
  rw [itemsAt, sectionAt?_of_legible h]
  rfl

theorem changesIn_of_legible {d : Path} (h : ∀ q ∈ names.all, Legible files (d.join q))
    (hfull : (names.written files parser d).full = .none ∨ o.allowFull = true) :
    o.changesIn files parser names d = .ok (names.written files parser d) := by
  apply changesIn_eq_ok.mpr
  refine ⟨fullAt?_eq_ok.mpr ⟨?_, hfull⟩, ?_, ?_⟩
  · exact sectionAt?_of_legible (h names.full (by simp [Names.all]))
  · exact itemsAt_of_legible (h names.before (by simp [Names.all]))
  · exact itemsAt_of_legible (h names.after (by simp [Names.all]))

theorem changesIn_of_notAllowed {d : Path} {t : Section}
    (hfull : (names.written files parser d).full = some t) (hallow : o.allowFull = false) :
    o.changesIn files parser names d = .error (.overrideNotAllowed (d.join names.full)) := by
  have hpresent : Files.presentAt files (d.join names.full) = .ok true := by
    simp only [Names.written, writtenAt?] at hfull
    split at hfull
    next hb _ => rw [Files.presentAt, hb]
    next => cases hfull
  rw [changesIn, fullAt?, hpresent]
  simp [hallow, Bind.bind, Except.bind, throw, throwThe, MonadExceptOf.throw]

/-! ### All directories -/

/-- Without full overrides each directory wraps what those before it have made. -/
theorem foldl_written_of_none {ds : List Path}
    (h : ∀ d ∈ ds, (names.written files parser d).full = .none) (s : Section) :
    (ds.map (names.written files parser)).foldl (fun s c => c.apply s) s =
      wrap (names.written files parser) ds s := by
  induction ds generalizing s with
  | nil => simp [wrap]
  | cons d ds ih =>
    have hd := h d List.mem_cons_self
    have hrest := ih fun d' hd' => h d' (List.mem_cons_of_mem d hd')
    rw [List.map_cons, List.foldl_cons, hrest, wrap_cons, Changes.apply, hd, Option.getD_none]

theorem foldl_written_of_some {d : Path} {back : List Path} {t : Section}
    (hd : (names.written files parser d).full = some t)
    (hback : ∀ d' ∈ back, (names.written files parser d').full = .none)
    (s : Section) :
    ((d :: back).map (names.written files parser)).foldl (fun s c => c.apply s) s =
      wrap (names.written files parser) (d :: back) t := by
  rw [List.map_cons, List.foldl_cons, foldl_written_of_none hback, wrap_cons, Changes.apply, hd,
    Option.getD_some]

theorem mapM_changesIn {ds : List Path}
    (h : ∀ d ∈ ds, ∀ q ∈ names.all, Legible files (d.join q))
    (hfull : ∀ d ∈ ds, (names.written files parser d).full = .none ∨ o.allowFull = true) :
    ds.mapM (o.changesIn files parser names) = .ok (ds.map (names.written files parser)) := by
  apply mapM_eq_ok.mpr
  rw [List.forall₂_map_right_iff, List.forall₂_same]
  exact fun d hd => changesIn_of_legible (h d hd) (hfull d hd)

/-- The directories lay their changes around the section of a file, each outside those before it.
A full override takes the place of the section and of all that was laid around it so far; where full
overrides are not allowed, the first of them is an error. -/
theorem customize_wraps {p : Path} (hp : p.fileName ≠ .none) :
    ∃ names, names? p = some names ∧
      ∀ (files : FileSystem) (parser : Markdown.Options) (o : Overrides) (s : Section),
        (∀ d ∈ o.directories, ∀ q ∈ names.all, Legible files (d.join q)) →
        ((∀ d ∈ o.directories, (names.written files parser d).full = .none) →
          (o.customize parser p s).result files =
            .ok (wrap (names.written files parser) o.directories s)) ∧
        ∀ front d back t, o.directories = front ++ d :: back →
          (names.written files parser d).full = some t →
          (o.allowFull = true → (∀ d' ∈ back, (names.written files parser d').full = .none) →
            (o.customize parser p s).result files =
              .ok (wrap (names.written files parser) (d :: back) t)) ∧
          (o.allowFull = false → (∀ d' ∈ front, (names.written files parser d').full = .none) →
            (o.customize parser p s).result files =
              .error (.overrideNotAllowed (d.join names.full))) := by
  obtain ⟨names, hnames⟩ := Option.ne_none_iff_exists'.mp fun h => hp (names?_eq_none_iff.mp h)
  refine ⟨names, hnames, fun files parser o s hlegible => ?_⟩
  have hresult : (o.customize parser p s).result files =
      (o.directories.mapM (o.changesIn files parser names)).map fun cs =>
        cs.foldl (fun s c => c.apply s) s := by
    rw [← result_foldlM, customize, hnames]
  refine ⟨fun hnone => ?none, fun front d back t hsplit hd => ⟨fun hallow hback => ?allowed,
    fun hallow hfront => ?notAllowed⟩⟩
  case none =>
    rw [hresult, mapM_changesIn hlegible fun d hd => Or.inl (hnone d hd),
      ← foldl_written_of_none hnone]
    rfl
  case allowed =>
    have hfold := foldl_written_of_some hd hback
      ((front.map (names.written files parser)).foldl (fun s c => c.apply s) s)
    rw [hresult, mapM_changesIn hlegible fun _ _ => Or.inr hallow, hsplit]
    rw [← List.foldl_append, ← List.map_append] at hfold
    exact congrArg Except.ok hfold
  case notAllowed =>
    have hfirst : ∀ d' ∈ front, ∃ c, o.changesIn files parser names d' = .ok c := by
      intro d' hd'
      have hmem : d' ∈ o.directories := hsplit ▸ List.mem_append_left _ hd'
      exact ⟨_, changesIn_of_legible (hlegible d' hmem) (Or.inl (hfront d' hd'))⟩
    rw [hresult, hsplit, mapM_append_eq_error hfirst (changesIn_of_notAllowed hd hallow)]
    rfl

instance (files : FileSystem) (p : Path) : Decidable (Legible files p) :=
  inferInstanceAs (Decidable (_ ∨ _))

/-- A folder that replaces a file and adds to it, and one that adds to it. -/
def teamAndLocal : FileTree := ⟨[(["team"], .directory),
  (["team", "review.md"], .file "- Ours.".toUTF8),
  (["team", "review-post.md"], .file "- Be kind.".toUTF8),
  (["local"], .directory),
  (["local", "review-pre.md"], .file "- Read first.".toUTF8)]⟩

def bullet (text : String) : SectionItem := .leaf (.ofText .instruction text)

theorem customize_wraps_review :
    (⟨"review.md"⟩ : Path).fileName ≠ .none ∧
    (Overrides.customize ⟨[⟨"local"⟩], false⟩ (.plain .instruction) ⟨"review.md"⟩
        ⟨⟨some "Review", .instruction, .none, .none, .none⟩, [bullet "Check."]⟩).result
          (teamAndLocal.system ⟨""⟩) =
      .ok ⟨⟨some "Review", .instruction, .none, .none, .none⟩,
        [bullet "Read first.", bullet "Check."]⟩ ∧
    (Overrides.customize ⟨[⟨"local"⟩, ⟨"team"⟩, ⟨"local"⟩], true⟩ (.plain .instruction)
        ⟨"review.md"⟩ (.titled .instruction "Review")).result (teamAndLocal.system ⟨""⟩) =
      .ok ⟨⟨.none, .instruction, .none, .none, .none⟩,
        [bullet "Read first.", bullet "Ours.", bullet "Be kind."]⟩ ∧
    (Overrides.customize ⟨[⟨"local"⟩, ⟨"team"⟩], false⟩ (.plain .instruction)
        ⟨"review.md"⟩ (.titled .instruction "Review")).result (teamAndLocal.system ⟨""⟩) =
      .error (.overrideNotAllowed ⟨"team/review.md"⟩) := by
  have hname : (⟨"review.md"⟩ : Path).fileName ≠ .none := by decide
  obtain ⟨names, hnames, hwraps⟩ := customize_wraps hname
  have hall : names = ⟨⟨"review.md"⟩, ⟨"review-pre.md"⟩, ⟨"review-post.md"⟩⟩ := by
    have hsome : names? ⟨"review.md"⟩ =
        some ⟨⟨"review.md"⟩, ⟨"review-pre.md"⟩, ⟨"review-post.md"⟩⟩ := by rfl
    exact Option.some.inj (hnames.symm.trans hsome)
  subst hall
  let files := teamAndLocal.system ⟨""⟩
  refine ⟨hname, ?_, ?_, ?_⟩
  · refine ((hwraps files (.plain .instruction) ⟨[⟨"local"⟩], false⟩ _ ?_).1 ?_).trans ?_
    all_goals decide +kernel
  · refine (((hwraps files (.plain .instruction) ⟨[⟨"local"⟩, ⟨"team"⟩, ⟨"local"⟩], true⟩ _ ?_).2
      [⟨"local"⟩] ⟨"team"⟩ [⟨"local"⟩] ⟨⟨.none, .instruction, .none, .none, .none⟩, [bullet "Ours."]⟩
      rfl ?_).1 rfl ?_).trans ?_
    all_goals decide +kernel
  · refine ((hwraps files (.plain .instruction) ⟨[⟨"local"⟩, ⟨"team"⟩], false⟩ _ ?_).2
      [⟨"local"⟩] ⟨"team"⟩ [] ⟨⟨.none, .instruction, .none, .none, .none⟩, [bullet "Ours."]⟩
      rfl ?_).2 rfl ?_
    all_goals decide +kernel

end Overrides
end PromptWeave
