import PromptWeave.Proofs.Assembly
import PromptWeave.Proofs.Files.Filling
import PromptWeave.Proofs.Files.LeafTitles
import PromptWeave.Proofs.Files.Overriding
import PromptWeave.Proofs.Parameters
import PromptWeave.Recipe.Cooking

/-! Parameters in recipes.
What a recipe puts into a prompt is what its entries hold, with the parameters put once into every
text and every title but those of leaves, which stay as the entries give them. -/
namespace PromptWeave

namespace Assembly

/-- The assembly without parameters. -/
def unfilled (a : Assembly) : Assembly := { a with parameters := .empty }

theorem documentItems_mapTexts (f : String → String) (s : Section) :
    documentItems (s.mapTexts f) = SectionItem.mapTextsAll f (documentItems s) := by
  cases htitle : s.head.title <;>
    simp [documentItems, Section.mapTexts, htitle, Section.toItem, SectionItem.mapTextsAll,
      SectionItem.mapTexts]

variable (files : FileSystem) (a : Assembly)

theorem result_document_mapTexts (area : Area) (p : Path) :
    (a.document area p).result files = ((a.unfilled.document area p).result files).map
      (Section.mapTexts a.parameters.substitute) := by
  rw [result_document, result_document, Markdown.parsedAt_mapTexts]
  change _ = ((Markdown.parsedAt files (.plain (a.markdown area).kind) (a.locate p)).bind fun s =>
    (a.overrides.customize (.plain (a.markdown area).kind) p s).result files).map _
  cases Markdown.parsedAt files (.plain (a.markdown area).kind) (a.locate p) with
  | error e => rfl
  | ok s => exact Overrides.result_customize_mapTexts files (a.markdown area) a.overrides p s

theorem leafTitles_document {area : Area} {p : Path} {s : Section}
    (h : (a.document area p).result files = .ok s) :
    SectionItem.leafTitlesAll s.items = [] := by
  rw [document] at h
  obtain ⟨base, hbase, hcustomize⟩ := Attempt.result_bind_eq_ok.mp h
  rw [Markdown.result_parseFile] at hbase
  exact Overrides.leafTitles_customize files (a.markdown area) hcustomize
    (Markdown.leafTitles_parsedAt hbase)

def reader (area : Area) : FolderReader :=
  ⟨a.folderOptions area, (IgnoreSet.ofPatterns a.folders.ignorePatterns).1⟩

theorem run_sections (area : Area) (ps : List Path) : (Reading.run files (a.sections area ps)).1 =
    (Reading.run files ((a.reader area).loadAll (ps.map a.locate))).1 := by
  rw [sections, Reading.run_bind, FolderReader.ofOptions]
  simp only [Reading.run_bind, Reading.run_pure]
  rfl

theorem leafTitles_documentItems {s : Section} (h : SectionItem.leafTitlesAll s.items = []) :
    SectionItem.leafTitlesAll (documentItems s) = [] := by
  unfold documentItems
  cases s.head.title with
  | none => exact h
  | some title =>
    have hone : ∀ t ∈ [s], SectionItem.leafTitlesAll t.items = [] := by simpa using h
    exact SectionItem.leafTitlesAll_toItem hone

def folderItems (area : Area) (ps : List Path) : List SectionItem :=
  (Reading.run files (a.sections area ps)).1.map Section.toItem

/-- The assembly without parameters, also for its folders. -/
def bare (a : Assembly) : Assembly :=
  { a.unfilled with folders := { a.folders with parameters := .empty } }

theorem filled_folderItems (area : Area) (ps : List Path) :
    SectionItem.AllFilled (a.folderItems files area ps)
      (Parameters.substitute (a.folders.parameters.onto a.parameters))
      (a.bare.folderItems files area ps) := by
  have hreader : a.bare.reader area = (a.reader area).unfilled := by
    simp [reader, bare, unfilled, FolderReader.unfilled, folderOptions]
  rw [folderItems, folderItems, run_sections, run_sections, hreader]
  exact FolderReader.filled_loadAll (a.reader area) files (ps.map a.locate)

theorem filled_sections (hfolders : a.folders.parameters = .empty) (area : Area) (ps : List Path) :
    SectionItem.AllFilled ((Reading.run files (a.sections area ps)).1.map Section.toItem)
      a.parameters.substitute
      ((Reading.run files (a.unfilled.sections area ps)).1.map Section.toItem) := by
  have hbare : a.bare = a.unfilled := by simp [bare, unfilled, ← hfolders]
  have hfilled := filled_folderItems files a area ps
  rw [hbare, hfolders] at hfilled
  simpa [folderItems] using hfilled

theorem leafTitles_sections (area : Area) (ps : List Path) : SectionItem.leafTitlesAll
    ((Reading.run files (a.sections area ps)).1.map Section.toItem) = [] := by
  rw [run_sections]
  exact FolderReader.leafTitles_loadAll (a.reader area) files (ps.map a.locate)

end Assembly

namespace RecipeEntry

def titles : RecipeEntry → List String
  | .inline _ title _ => title.toList
  | .text _ | .path _ | .directories _ => []

end RecipeEntry

namespace Recipe

def unfilled (r : Recipe) : Recipe := { r with parameters := .empty }

def titlesIn (r : Recipe) (a : Area) : List String := (r.entries a).flatMap RecipeEntry.titles

/-- The items of an entry as it is written, before any parameters are put in. -/
def rawItems (files : FileSystem) (r : Recipe) (a : Area) :
    RecipeEntry → Except Error (List SectionItem)
  | .text t => .ok [.leaf (Leaf.ofText a.kind t)]
  | .inline t title weight => .ok [.leaf ⟨a.kind, t, weight, none, title⟩]
  | .path p => ((r.unfilled.assembly.document a p).result files).map Assembly.documentItems
  | .directories ps =>
    .ok ((Reading.run files (r.unfilled.assembly.sections a ps)).1.map Section.toItem)

variable {files : FileSystem} {r : Recipe} {a : Area}

theorem filled_leaf (params : Parameters) (l : Leaf) (hl : l.parameters = none) :
    SectionItem.AllFilled [.leaf (l.resolved (some params))] params.substitute [.leaf l] := by
  simp [SectionItem.AllFilled, SectionItem.withoutParametersAll, SectionItem.withoutParameters,
    SectionItem.mapTextsAll, SectionItem.mapTexts, Leaf.resolved, hl]

theorem rawItems_of_itemsOf {e : RecipeEntry} {items : List SectionItem}
    (h : r.assembly.itemsOf files (stepOf a e) = .ok items) :
    ∃ raw, r.rawItems files a e = .ok raw ∧
      SectionItem.AllFilled items r.parameters.substitute raw ∧
      SectionItem.leafTitlesAll raw = e.titles := by
  cases e with
  | text t =>
    cases h
    exact ⟨_, rfl, filled_leaf r.parameters (Leaf.ofText a.kind t) rfl, rfl⟩
  | path p =>
    rw [stepOf, Assembly.itemsOf, Assembly.result_document_mapTexts] at h
    rw [rawItems]
    change Except.map _ (Except.map _ ((r.unfilled.assembly.document a p).result files)) = _ at h
    cases hraw : (r.unfilled.assembly.document a p).result files with
    | error e =>
      rw [hraw] at h
      cases h
    | ok s =>
      rw [hraw] at h
      cases h
      refine ⟨Assembly.documentItems s, rfl, ?_, ?_⟩
      · rw [Assembly.documentItems_mapTexts]
        rfl
      · exact Assembly.leafTitles_documentItems
          (r.unfilled.assembly.leafTitles_document files hraw)
  | directories ps =>
    rw [stepOf, Assembly.itemsOf] at h
    cases h
    refine ⟨_, rfl, r.assembly.filled_sections files rfl a ps, ?_⟩
    exact r.unfilled.assembly.leafTitles_sections files a ps
  | inline t title weight =>
    cases h
    exact ⟨_, rfl, filled_leaf r.parameters ⟨a.kind, t, weight, none, title⟩ rfl,
      List.append_nil title.toList⟩

theorem rawItems_of_forall₂ {es : List RecipeEntry} {puts : List (List SectionItem)}
    (h : List.Forall₂ (fun e items => r.assembly.itemsOf files (stepOf a e) = .ok items) es puts) :
    ∃ raws, List.Forall₂ (fun e raw => r.rawItems files a e = .ok raw) es raws ∧
      SectionItem.AllFilled puts.flatten r.parameters.substitute raws.flatten ∧
      SectionItem.leafTitlesAll raws.flatten = es.flatMap RecipeEntry.titles := by
  induction h with
  | nil => exact ⟨[], .nil, rfl, rfl⟩
  | cons hitems _ ih =>
    obtain ⟨raw, hraw, hfilled, htitles⟩ := rawItems_of_itemsOf hitems
    obtain ⟨raws, hraws, hfilledRest, htitlesRest⟩ := ih
    refine ⟨raw :: raws, .cons hraw hraws, hfilled.append hfilledRest, ?_⟩
    rw [List.flatten_cons, SectionItem.leafTitlesAll_append, htitles, htitlesRest,
      List.flatMap_cons]

theorem filter_steps (r : Recipe) (a : Area) :
    (r.steps.filter fun step => step.area? = some a) = (r.entries a).map (stepOf a) := by
  have harea : ∀ b, (((r.entries b).map (stepOf b)).filter fun step => step.area? = some a) =
      if b = a then (r.entries b).map (stepOf b) else [] := by
    intro b
    have hstep : ∀ e, (stepOf b e).area? = some b := fun e => by cases e <;> rfl
    by_cases hb : b = a
    · subst hb
      simp [List.filter_map, Function.comp_def, hstep]
    · simp [List.filter_map, Function.comp_def, hstep, hb]
  have houtput : ((r.structuredOutput.map Assembly.Step.output).toList.filter
      fun step => step.area? = some a) = [] := by
    cases r.structuredOutput <;> rfl
  rw [steps, List.filter_append, houtput, List.append_nil, List.filter_flatMap]
  simp only [harea]
  cases a <;> simp [areas, Area.all, Area.userOrder]

/-- What a recipe puts into an area is what its entries hold, with the parameters put once into every
text and every title of a section. The titles of leaves are filled too exactly when there is nothing
to fill in them. -/
theorem cook_filled {templates : Templates} {prompt : Prompt}
    (h : (r.cook templates).result files = .ok prompt) :
    ∃ flat, r.resolve templates = .ok flat ∧ prompt.Fresh ∧ ∀ a, ∃ raws,
      List.Forall₂ (fun e raw => flat.rawItems files a e = .ok raw) (flat.entries a) raws ∧
      SectionItem.AllFilled (prompt.itemsIn a) (Parameters.filled flat.parameters) raws.flatten ∧
      (SectionItem.AllFilled (prompt.itemsIn a) (Parameters.filled flat.parameters)
          (SectionItem.mapLeafTitlesAll (Parameters.filled flat.parameters) raws.flatten) ↔
        ∀ t ∈ flat.titlesIn a, Parameters.filled flat.parameters t = t) := by
  rw [cook] at h
  obtain ⟨flat, hflat, hbuild⟩ := Attempt.result_bind_eq_ok.mp h
  obtain ⟨hfresh, hitems⟩ := Assembly.itemsIn_foldlM files flat.assembly Prompt.fresh_empty hbuild
  refine ⟨flat, hflat, hfresh, fun a => ?_⟩
  obtain ⟨puts, hputs, hprompt⟩ := hitems a
  rw [filter_steps, List.forall₂_map_left_iff] at hputs
  obtain ⟨raws, hraws, hfilled, htitles⟩ := rawItems_of_forall₂ hputs
  have hnone : Prompt.empty.itemsIn a = [] := by cases a <;> rfl
  rw [hnone, List.nil_append] at hprompt
  rw [← hprompt, Parameters.substitute_eq_filled] at hfilled
  refine ⟨raws, hraws, hfilled, ?_⟩
  rw [hfilled.leafTitles_iff, htitles, titlesIn]

def headedFiles : FileSystem :=
  ⟨fun _ => .ok "# On \x7b\x7bx\x7d\x7d\nSee.", fun _ => .error .notFound, fun _ => .error .notFound⟩

def withValue (entries : List RecipeEntry) : Recipe :=
  { Recipe.empty.addEntries .context entries with
    parameters := Dict.empty.insert "x" (.str "1") }

theorem cook_filled_headed :
    ∃ prompt, ((withValue [.path ⟨"a.md"⟩, .inline "\x7b\x7bx\x7d\x7d" (some "T") none]).cook
        Dict.empty).result headedFiles = .ok prompt ∧
      ∃ flat, (withValue [.path ⟨"a.md"⟩, .inline "\x7b\x7bx\x7d\x7d" (some "T") none]).resolve
          Dict.empty = .ok flat ∧ prompt.Fresh ∧ ∀ a, ∃ raws,
        List.Forall₂ (fun e raw => flat.rawItems headedFiles a e = .ok raw) (flat.entries a) raws ∧
        SectionItem.AllFilled (prompt.itemsIn a) (Parameters.filled flat.parameters) raws.flatten ∧
        (SectionItem.AllFilled (prompt.itemsIn a) (Parameters.filled flat.parameters)
            (SectionItem.mapLeafTitlesAll (Parameters.filled flat.parameters) raws.flatten) ↔
          ∀ t ∈ flat.titlesIn a, Parameters.filled flat.parameters t = t) :=
  ⟨_, rfl, cook_filled rfl⟩

/-- The title of an inline entry keeps a placeholder that has a value. -/
theorem inline_title_not_filled :
    ¬ ∀ (r flat : Recipe) (templates : Templates) (files : FileSystem) (prompt : Prompt) (a : Area)
      (raws : List (List SectionItem)), r.resolve templates = .ok flat →
      (r.cook templates).result files = .ok prompt →
      List.Forall₂ (fun e raw => flat.rawItems files a e = .ok raw) (flat.entries a) raws →
      SectionItem.AllFilled (prompt.itemsIn a) (Parameters.filled flat.parameters)
        (SectionItem.mapLeafTitlesAll (Parameters.filled flat.parameters) raws.flatten) := by
  intro hall
  have hfilled := hall (withValue [.inline "a" (some "On \x7b\x7bx\x7d\x7d") none]) _ Dict.empty
    headedFiles _ .context _ rfl rfl (.cons rfl .nil)
  exact absurd hfilled (by decide)

end Recipe
end PromptWeave
