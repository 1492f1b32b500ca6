import PromptWeave.Proofs.Files.Changes
import PromptWeave.Proofs.Files.Folders
import PromptWeave.Proofs.Markdown.Kept

/-! Titles of leaves.
Titles in files and names of files become titles of sections; no leaf that comes of a file has one. -/
namespace PromptWeave

theorem Markdown.leafTitles_parse (o : Options) (document : String) :
    SectionItem.leafTitlesAll (parse o document).items = [] := by
  have hitems : ∀ es, SectionItem.leafTitlesAll (toItems o es) = [] := by
    intro es
    induction es using outline_induction with
    | nil => rfl
    | text t es ih => exact ih
    | headed depth title inner es ihinner ih =>
      rw [toItems, toItem, SectionItem.leafTitlesAll, SectionItem.leafTitles, ihinner, ih]
      rfl
  have hall := hitems (outline document.toList)
  unfold parse unwrap
  split
  next head items hone =>
    dsimp only at hone
    rw [hone] at hall
    simpa [SectionItem.leafTitlesAll, SectionItem.leafTitles] using hall
  next => exact hall

theorem Markdown.leafTitles_parsedAt {files : FileSystem} {o : Options} {p : Path} {s : Section}
    (h : parsedAt files o p = .ok s) : SectionItem.leafTitlesAll s.items = [] := by
  rw [parsedAt] at h
  cases hdocument : (files.text p).mapError (Error.fileRead p) with
  | error e =>
    rw [hdocument] at h
    cases h
  | ok document =>
    rw [hdocument] at h
    cases h
    exact leafTitles_parse o document

namespace Overrides

variable (files : FileSystem) (parser : Markdown.Options)

theorem leafTitles_sectionAt? {p : Path} {r : Option Section}
    (h : sectionAt? files parser p = .ok r) :
    ∀ s ∈ r, SectionItem.leafTitlesAll s.items = [] := by
  rw [sectionAt?] at h
  rcases hpresent : Files.presentAt files p with e | _ | _ <;> rw [hpresent] at h
  · cases h
  · cases h
    simp
  · cases hparsed : Markdown.parsedAt files parser p with
    | error e =>
      rw [hparsed] at h
      cases h
    | ok s =>
      rw [hparsed] at h
      cases h
      rintro s' ⟨⟩
      exact Markdown.leafTitles_parsedAt hparsed

theorem leafTitles_itemsAt {p : Path} {items : List SectionItem}
    (h : itemsAt files parser p = .ok items) : SectionItem.leafTitlesAll items = [] := by
  obtain ⟨r, hr⟩ := sectionAt?_of_itemsAt h
  rw [itemsAt, hr] at h
  cases h
  cases r with
  | none => rfl
  | some s => exact leafTitles_sectionAt? files parser hr s rfl

theorem leafTitles_changesIn {o : Overrides} {names : Names} {d : Path} {c : Changes}
    (h : o.changesIn files parser names d = .ok c) {s : Section}
    (hs : SectionItem.leafTitlesAll s.items = []) :
    SectionItem.leafTitlesAll (c.apply s).items = [] := by
  obtain ⟨hfull, hbefore, hafter⟩ := changesIn_eq_ok.mp h
  have hwhole : SectionItem.leafTitlesAll (c.full.getD s).items = [] := by
    cases hc : c.full with
    | none => exact hs
    | some t => exact leafTitles_sectionAt? files parser (fullAt?_eq_ok.mp hfull).1 t hc
  rw [Changes.apply, SectionItem.leafTitlesAll_append, SectionItem.leafTitlesAll_append, hwhole,
    leafTitles_itemsAt files parser hbefore, leafTitles_itemsAt files parser hafter]
  rfl

theorem leafTitles_customize {o : Overrides} {p : Path} {s s' : Section}
    (h : (o.customize parser p s).result files = .ok s')
    (hs : SectionItem.leafTitlesAll s.items = []) : SectionItem.leafTitlesAll s'.items = [] := by
  cases hnames : names? p with
  | none =>
    simp only [customize, hnames] at h
    cases h
    exact hs
  | some names =>
    obtain ⟨changes, hchanges, rfl⟩ := (customize_eq_ok files parser hnames).mp h
    clear h
    generalize o.directories = directories at hchanges
    induction hchanges generalizing s with
    | nil => exact hs
    | cons hc _ ih => exact ih (leafTitles_changesIn files parser hc hs)

end Overrides

namespace FolderReader

variable (r : FolderReader) (files : FileSystem)

theorem leafTitles_addBody (title body : String) :
    SectionItem.leafTitlesAll (addBody (r.newSection title) body).items = [] := by
  unfold addBody
  split_ifs
  · rfl
  · have htitle : ∀ params (leaf : Leaf), (leaf.resolved params).title = leaf.title := by
      intro params leaf
      cases params <;> rfl
    simp [newSection, Section.create, Section.append, Section.appendWith, Section.itemOf,
      SectionItem.leafTitlesAll, SectionItem.leafTitles, htitle]

theorem leafTitles_fileSection (name text : String) :
    SectionItem.leafTitlesAll (r.fileSection name text).items = [] := by
  unfold fileSection
  split_ifs
  · exact leafTitles_addBody r _ _
  · exact leafTitles_addBody r _ _

theorem leafTitles_sectionAt (folder : Path) (names : List String) :
    SectionItem.leafTitlesAll (r.sectionAt files folder names).items = [] := by
  have hhead : SectionItem.leafTitlesAll (r.headAt files folder).items = [] := by
    unfold headAt
    split
    · exact leafTitles_addBody r _ _
    · rfl
  have hfiles : SectionItem.leafTitlesAll
      ((names.filterMap (r.fileAt? files folder)).map Section.toItem) = [] := by
    refine SectionItem.leafTitlesAll_toItem fun s hs => ?_
    obtain ⟨name, -, hname⟩ := List.mem_filterMap.mp hs
    rw [fileAt?] at hname
    split at hname
    · cases hname
      exact leafTitles_fileSection r name _
    · cases hname
  rw [sectionAt, Section.extend, SectionItem.leafTitlesAll_append, hhead, hfiles]
  rfl

theorem leafTitles_loadAll (folders : List Path) : SectionItem.leafTitlesAll
    ((Reading.run files (r.loadAll folders)).1.map Section.toItem) = [] := by
  rw [run_loadAll]
  refine SectionItem.leafTitlesAll_toItem fun s hs => ?_
  obtain ⟨folder, -, hfolder⟩ := List.mem_filterMap.mp hs
  rw [result_load] at hfolder
  cases hnames : (r.fileNames folder).result files with
  | error e =>
    rw [hnames] at hfolder
    cases hfolder
  | ok names =>
    rw [hnames] at hfolder
    cases hfolder
    exact leafTitles_sectionAt r files folder names

end FolderReader
end PromptWeave
