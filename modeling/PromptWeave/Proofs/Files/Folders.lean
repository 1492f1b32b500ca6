import PromptWeave.Files.Folder
import PromptWeave.Proofs.Files.Attempts
import PromptWeave.Proofs.Section

/-! What folders give.
A folder whose names can be listed gives its own section with one section for each of its files that
can be read, in order; a folder that cannot be listed gives nothing. -/
namespace PromptWeave

theorem Section.append_nested (s t : Section) : s.append (.nested t) = s.extend [t.toItem] := rfl

namespace FolderReader

variable (r : FolderReader) (files : FileSystem)

def headAt (folder : Path) : Section :=
  match files.text (folder.join ⟨r.options.contextFile⟩) with
  | .ok text => r.headSection (defaultTitle folder) text
  | .error _ => r.newSection (defaultTitle folder)

def fileAt? (folder : Path) (name : String) : Option Section :=
  match files.text (folder.join ⟨name⟩) with
  | .ok text => some (r.fileSection name text)
  | .error _ => none

theorem run_readHead (folder : Path) :
    (Reading.run files (r.readHead folder)).1 = r.headAt files folder := by
  simp only [readHead, Reading.run, headAt]
  cases files.text (folder.join ⟨r.options.contextFile⟩) with
  | ok text => rfl
  | error e => cases e <;> rfl

theorem run_readFile (folder : Path) (name : String) :
    (Reading.run files (r.readFile folder name)).1 = r.fileAt? files folder name := by
  simp only [readFile, Reading.run, fileAt?]
  cases files.text (folder.join ⟨name⟩) <;> rfl

theorem run_readFiles (folder : Path) (s : Section) (names : List String) :
    (Reading.run files (r.readFiles folder s names)).1 =
      s.extend ((names.filterMap (r.fileAt? files folder)).map Section.toItem) := by
  induction names generalizing s with
  | nil => simp [readFiles, Reading.run, Section.extend]
  | cons name names ih =>
    rw [readFiles, Reading.run_bind, run_readFile, List.filterMap_cons]
    cases r.fileAt? files folder name with
    | none => exact ih s
    | some inner =>
      rw [ih, Section.append_nested]
      simp [Section.extend]

def sectionAt (folder : Path) (names : List String) : Section :=
  (r.headAt files folder).extend ((names.filterMap (r.fileAt? files folder)).map Section.toItem)

theorem result_load (folder : Path) : (r.load folder).result files =
    ((r.fileNames folder).result files).map (r.sectionAt files folder) := by
  rw [load, Attempt.result_bind]
  cases (r.fileNames folder).result files with
  | error e => rfl
  | ok names =>
    change (liftM (r.readHead folder) >>= fun head => liftM (r.readFiles folder head names) :
      Attempt Section).result files = _
    rw [Attempt.result_bind, Attempt.result_lift, run_readHead]
    change (liftM (r.readFiles folder (r.headAt files folder) names) : Attempt Section).result
      files = _
    rw [Attempt.result_lift, run_readFiles]
    rfl

theorem run_loadAll (folders : List Path) : (Reading.run files (r.loadAll folders)).1 =
    folders.filterMap fun folder => ((r.load folder).result files).toOption := by
  induction folders with
  | nil => rfl
  | cons folder folders ih =>
    have hload : (Reading.run files (ExceptT.run (r.load folder))).1 = (r.load folder).result files :=
      rfl
    rw [loadAll, Reading.run_bind, List.filterMap_cons, hload]
    cases (r.load folder).result files with
    | error e =>
      simp only [Reading.run_bind]
      exact ih
    | ok s =>
      simp only [Reading.run_bind, Reading.run_pure]
      exact congrArg (List.cons s) ih

end FolderReader
end PromptWeave
