import PromptWeave.Proofs.Files.Changes
import PromptWeave.Proofs.Files.Folders
import PromptWeave.Proofs.Markdown.Substituting

/-! Parameters in files and folders.
What a file with its local changes gives, and what a folder gives, is what it gives without
parameters, with the parameters put once into every title and every text. -/
namespace PromptWeave

theorem Markdown.parsedAt_mapTexts (files : FileSystem) (o : Options) (p : Path) :
    parsedAt files o p =
      (parsedAt files (.plain o.kind) p).map (Section.mapTexts o.parameters.substitute) := by
  simp only [parsedAt]
  cases (files.text p).mapError (Error.fileRead p) with
  | error e => rfl
  | ok document => exact congrArg Except.ok (parse_mapTexts o document)

/-! ### Local changes -/

namespace Overrides

def Changes.mapTexts (f : String → String) (c : Changes) : Changes :=
  ⟨c.full.map (Section.mapTexts f), SectionItem.mapTextsAll f c.before,
    SectionItem.mapTextsAll f c.after⟩

theorem Changes.apply_mapTexts (f : String → String) (c : Changes) (s : Section) :
    (c.mapTexts f).apply (s.mapTexts f) = (c.apply s).mapTexts f := by
  cases hfull : c.full <;>
    simp [apply, mapTexts, hfull, Section.mapTexts, SectionItem.mapTextsAll_append]

theorem Changes.foldl_mapTexts (f : String → String) (cs : List Changes) (s : Section) :
    (cs.map (mapTexts f)).foldl (fun s c => c.apply s) (s.mapTexts f) =
      (cs.foldl (fun s c => c.apply s) s).mapTexts f := by
  induction cs generalizing s with
  | nil => rfl
  | cons c cs ih => rw [List.map_cons, List.foldl_cons, apply_mapTexts, ih, List.foldl_cons]

variable (files : FileSystem) (parser : Markdown.Options)

theorem fullAt?_mapTexts (o : Overrides) (p : Path) :
    o.fullAt? files parser p = (o.fullAt? files (.plain parser.kind) p).map
      (Option.map (Section.mapTexts parser.parameters.substitute)) := by
  simp only [fullAt?, Markdown.parsedAt_mapTexts files parser p]
  rcases Files.presentAt files p with e | _ | _
  · rfl
  · rfl
  · cases o.allowFull
    · rfl
    · cases Markdown.parsedAt files (.plain parser.kind) p <;> rfl

theorem itemsAt_mapTexts (p : Path) :
    itemsAt files parser p = (itemsAt files (.plain parser.kind) p).map
      (SectionItem.mapTextsAll parser.parameters.substitute) := by
  simp only [itemsAt, sectionAt?, Markdown.parsedAt_mapTexts files parser p]
  rcases Files.presentAt files p with e | _ | _
  · rfl
  · rfl
  · cases Markdown.parsedAt files (.plain parser.kind) p <;> rfl

theorem changesIn_mapTexts (o : Overrides) (names : Names) (d : Path) :
    o.changesIn files parser names d = (o.changesIn files (.plain parser.kind) names d).map
      (Changes.mapTexts parser.parameters.substitute) := by
  simp only [changesIn, fullAt?_mapTexts files parser, itemsAt_mapTexts files parser]
  cases o.fullAt? files (.plain parser.kind) (d.join names.full) with
  | error e => rfl
  | ok full =>
    cases itemsAt files (.plain parser.kind) (d.join names.before) with
    | error e => rfl
    | ok before => cases itemsAt files (.plain parser.kind) (d.join names.after) <;> rfl

theorem result_customize_mapTexts (o : Overrides) (p : Path) (s : Section) :
    (o.customize parser p (s.mapTexts parser.parameters.substitute)).result files =
      ((o.customize (.plain parser.kind) p s).result files).map
        (Section.mapTexts parser.parameters.substitute) := by
  cases hnames : names? p with
  | none => simp [customize, hnames, Except.map]
  | some names =>
    have hchanges : o.changesIn files parser names = fun d =>
        (o.changesIn files (.plain parser.kind) names d).map
          (Changes.mapTexts parser.parameters.substitute) :=
      funext (changesIn_mapTexts files parser o names)
    simp only [customize, hnames, result_foldlM, hchanges, mapM_map_result]
    cases o.directories.mapM (o.changesIn files (.plain parser.kind) names) with
    | error e => rfl
    | ok cs => exact congrArg Except.ok (Changes.foldl_mapTexts _ cs s)

end Overrides

/-! ### Folders -/

theorem Parameters.substitute?_nonempty (params : Parameters) (text : String) :
    substitute? (if params.isEmpty then none else some params) text =
      params.substitute text := by
  split_ifs with hempty
  · simp [substitute, substituteChars, hempty]
  · rfl

namespace FolderReader

def unfilled (r : FolderReader) : FolderReader :=
  { r with options := { r.options with parameters := .empty } }

variable (r : FolderReader)

theorem newSection_eq (title : String) :
    r.newSection title = ⟨⟨some (r.options.parameters.substitute title), r.options.kind, none, none,
      if r.options.parameters.isEmpty then none else some r.options.parameters⟩, []⟩ := by
  simp [newSection, Section.create, Parameters.substitute?_nonempty]

theorem filled_newSection (title : String) :
    (r.newSection title).FilledFrom r.options.parameters.substitute
      (r.unfilled.newSection title) := by
  rw [newSection_eq]
  rfl

theorem filled_addBody (title body : String) :
    (addBody (r.newSection title) body).FilledFrom r.options.parameters.substitute
      (addBody (r.unfilled.newSection title) body) := by
  unfold addBody
  split_ifs
  · exact filled_newSection r title
  · refine (filled_newSection r title).extend ?_
    have hbody : Parameters.substitute? (if r.options.parameters.isEmpty then none
        else some r.options.parameters) body = r.options.parameters.substitute body :=
      Parameters.substitute?_nonempty r.options.parameters body
    have hraw : (r.unfilled.newSection title).itemOf .none (.text body) =
        .leaf (Leaf.ofText r.options.kind body) := rfl
    rw [hraw, newSection_eq]
    simp only [Section.itemOf, SectionItem.AllFilled, SectionItem.withoutParametersAll,
      SectionItem.withoutParameters, SectionItem.mapTextsAll, SectionItem.mapTexts,
      Leaf.resolved_eq, AddOptions.none, Parameters.layer_none_left, hbody]
    rfl

theorem filled_headSection (name text : String) :
    (r.headSection name text).FilledFrom r.options.parameters.substitute
      (r.unfilled.headSection name text) :=
  filled_addBody r _ _

theorem filled_fileSection (name text : String) :
    (r.fileSection name text).FilledFrom r.options.parameters.substitute
      (r.unfilled.fileSection name text) := by
  unfold fileSection
  split_ifs
  · exact filled_headSection r name text
  · exact filled_addBody r name (trimmed text)

variable (files : FileSystem)

theorem listed_unfilled (folder : Path) (names : List String) :
    r.unfilled.listed folder names = r.listed folder names := by
  induction names with
  | nil => rfl
  | cons name names ih => rw [listed, listed, ih]; rfl

theorem fileNames_unfilled (folder : Path) : r.unfilled.fileNames folder = r.fileNames folder := by
  simp only [fileNames, listed_unfilled]
  rfl

theorem filled_headAt (folder : Path) :
    (r.headAt files folder).FilledFrom r.options.parameters.substitute
      (r.unfilled.headAt files folder) := by
  cases htext : files.text (folder.join ⟨r.options.contextFile⟩) with
  | ok text =>
    have hraw : files.text (folder.join ⟨r.unfilled.options.contextFile⟩) = .ok text := htext
    simp only [headAt, htext, hraw]
    exact filled_headSection r (defaultTitle folder) text
  | error e =>
    have hraw : files.text (folder.join ⟨r.unfilled.options.contextFile⟩) = .error e := htext
    simp only [headAt, htext, hraw]
    exact filled_newSection r (defaultTitle folder)

theorem filled_filesAt (folder : Path) (names : List String) :
    SectionItem.AllFilled ((names.filterMap (r.fileAt? files folder)).map Section.toItem)
      r.options.parameters.substitute
      ((names.filterMap (r.unfilled.fileAt? files folder)).map Section.toItem) := by
  induction names with
  | nil => rfl
  | cons name names ih =>
    rw [List.filterMap_cons, List.filterMap_cons, fileAt?, fileAt?]
    cases files.text (folder.join ⟨name⟩) with
    | error e => exact ih
    | ok text => exact (filled_fileSection r name text).toItem.append ih

theorem filled_sectionAt (folder : Path) (names : List String) :
    (r.sectionAt files folder names).FilledFrom r.options.parameters.substitute
      (r.unfilled.sectionAt files folder names) :=
  (filled_headAt r files folder).extend (filled_filesAt r files folder names)

theorem filled_loadAll (folders : List Path) :
    SectionItem.AllFilled ((Reading.run files (r.loadAll folders)).1.map Section.toItem)
      r.options.parameters.substitute
      ((Reading.run files (r.unfilled.loadAll folders)).1.map Section.toItem) := by
  rw [run_loadAll, run_loadAll]
  induction folders with
  | nil => rfl
  | cons folder folders ih =>
    rw [List.filterMap_cons, List.filterMap_cons, result_load, result_load, fileNames_unfilled]
    cases (r.fileNames folder).result files with
    | error e => exact ih
    | ok names => exact (filled_sectionAt r files folder names).toItem.append ih

end FolderReader
end PromptWeave
