import PromptWeave.Proofs.Files.Filling
import PromptWeave.Proofs.Unicode.Bytes

/-! Folders as they are loaded.
The section of a folder has the text that stands for the folder and one section for each file that
is shown, in the order of their names. Neither the order in which the names are listed nor the order
of the patterns matters, and a pattern that cannot be used is as good as none. -/
namespace PromptWeave

namespace NamePattern

end NamePattern

namespace IgnoreSet

end IgnoreSet

namespace FolderReader

/-- The reader with the patterns that can be used. -/
def prepared (o : FolderOptions) : FolderReader := ⟨o, (IgnoreSet.ofPatterns o.ignorePatterns).1⟩

variable (r : FolderReader) (files : FileSystem) (folder : Path)

theorem run_ofOptions (o : FolderOptions) :
    (Reading.run files (ofOptions o)).1 = prepared o := by
  rw [ofOptions, Reading.run_bind]
  rfl

def lists (name : String) : Bool :=
  name ≠ r.options.contextFile && (files.isFile (folder.join ⟨name⟩) matches .ok true) &&
    !r.ignored.ignores name

theorem run_isListed (name : String) :
    (Reading.run files (r.isListed folder name)).1 = r.lists files folder name := by
  unfold isListed lists
  by_cases hname : name = r.options.contextFile
  · simp [hname, Reading.run]
  · rw [if_neg hname]
    simp only [Reading.run]
    rcases files.isFile (folder.join ⟨name⟩) with e | _ | _
    · simp [Reading.run]
    · simp [Reading.run]
    · simp [Reading.run, hname]

theorem run_listed (names : List String) :
    (Reading.run files (r.listed folder names)).1 = names.filter (r.lists files folder) := by
  induction names with
  | nil => rfl
  | cons name names ih =>
    simp only [listed, Reading.run_bind, Reading.run_pure, run_isListed, ih, List.filter_cons]

theorem result_fileNames : (r.fileNames folder).result files =
    ((files.names folder).mapError (Error.fileRead folder)).map fun names =>
      if r.options.sorted then sortNames (names.filter (r.lists files folder))
      else names.filter (r.lists files folder) := by
  rw [fileNames, Attempt.result_bind]
  change ((files.names folder).mapError (Error.fileRead folder)).bind _ = _
  cases files.names folder with
  | error e => rfl
  | ok names =>
    change (liftM (r.listed folder names) >>= fun names =>
      pure (if r.options.sorted then sortNames names else names) :
        Attempt (List String)).result files = _
    rw [Attempt.result_bind, Attempt.result_lift, run_listed]
    rfl

end FolderReader

namespace FolderOptions

variable (o : FolderOptions) (files : FileSystem) (folder : Path)

def load : Attempt Section := do (← FolderReader.ofOptions o).load folder

/-- The sections of the folders that can be listed. -/
def loadAll (folders : List Path) : Reading (List Section) := do
  (← FolderReader.ofOptions o).loadAll folders

theorem result_load : (o.load folder).result files =
    ((FolderReader.prepared o).load folder).result files := by
  change (liftM (FolderReader.ofOptions o) >>= fun r => r.load folder : Attempt Section).result
    files = _
  rw [Attempt.result_bind, Attempt.result_lift, FolderReader.run_ofOptions]
  rfl

theorem run_loadAll (folders : List Path) : (Reading.run files (o.loadAll folders)).1 =
    folders.filterMap fun folder => ((o.load folder).result files).toOption := by
  rw [loadAll, Reading.run_bind, FolderReader.run_ofOptions]
  simp only [result_load]
  exact FolderReader.run_loadAll _ files folders

variable {o files folder}

end FolderOptions
end PromptWeave
