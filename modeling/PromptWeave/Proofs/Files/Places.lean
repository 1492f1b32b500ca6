import PromptWeave.Assembly
import PromptWeave.Proofs.Files.Attempts

/-! Where the steps of an assembly look for files.
A step that puts in files or folders has its places, and performing it asks about each of them; a
prompt that gets built has asked about the places of all its steps. -/
namespace PromptWeave

theorem Files.asked_text (files : FileSystem) (p : Path) : (Files.text p).asked files = [p] := rfl

theorem Files.asked_names (files : FileSystem) (p : Path) : (Files.names p).asked files = [p] := rfl

theorem FolderReader.mem_asked_loadAll (files : FileSystem) (r : FolderReader) {folders : List Path}
    {p : Path} (hp : p ∈ folders) : p ∈ Reading.asked files (r.loadAll folders) := by
  induction folders with
  | nil => simp at hp
  | cons folder more ih =>
    have hfirst : folder ∈ (r.load folder).asked files := by
      apply Attempt.asked_subset_bind
      apply Attempt.asked_subset_bind
      simp [Files.asked_names]
    simp only [FolderReader.loadAll, Reading.asked_bind]
    rcases List.mem_cons.mp hp with rfl | hp
    · exact List.mem_append_left _ hfirst
    · apply List.mem_append_right
      cases (Reading.run files (ExceptT.run (r.load folder))).1 with
      | ok s => simpa using ih hp
      | error e => simpa using Or.inr (ih hp)

namespace Assembly

def places (a : Assembly) : Step → List Path
  | .file _ p => [a.locate p]
  | .folders _ ps => ps.map a.locate
  | .add _ _ _ | .output _ => []

theorem mem_asked_document (files : FileSystem) (a : Assembly) (area : Area) (p : Path) :
    a.locate p ∈ (a.document area p).asked files := by
  apply Attempt.asked_subset_bind
  apply Attempt.asked_subset_bind
  simp [Files.asked_text]

theorem mem_asked_sections (files : FileSystem) (a : Assembly) (area : Area) {ps : List Path}
    {q : Path} (hq : q ∈ ps.map a.locate) : q ∈ Reading.asked files (a.sections area ps) := by
  simp only [sections, Reading.asked_bind]
  exact List.mem_append_right _ (FolderReader.mem_asked_loadAll files _ hq)

theorem mem_asked_perform (files : FileSystem) (a : Assembly) (prompt : Prompt) (step : Step)
    {q : Path} (hq : q ∈ a.places step) : q ∈ (a.perform prompt step).asked files := by
  cases step with
  | add area o input => simp [places] at hq
  | output o => simp [places] at hq
  | file area p =>
    have he : q = a.locate p := by simpa [places] using hq
    subst he
    exact Attempt.asked_subset_bind _ _ _ (mem_asked_document files a area p)
  | folders area ps =>
    apply Attempt.asked_subset_bind
    change q ∈ Reading.asked files (a.sections area ps >>= _)
    rw [Reading.asked_bind]
    exact List.mem_append_left _ (mem_asked_sections files a area hq)

/-- A prompt that was built comes from all the places of its steps. -/
theorem mem_asked_foldlM {files : FileSystem} {a : Assembly} {steps : List Step}
    {first last : Prompt} (h : (steps.foldlM a.perform first).result files = .ok last)
    {step : Step} (hs : step ∈ steps) {q : Path} (hq : q ∈ a.places step) :
    q ∈ (steps.foldlM a.perform first).asked files := by
  induction steps generalizing first with
  | nil => simp at hs
  | cons s more ih =>
    rw [List.foldlM_cons] at h ⊢
    obtain ⟨next, hnext, hlast⟩ := Attempt.result_bind_eq_ok.mp h
    rw [Attempt.asked_bind_ok _ hnext]
    rcases List.mem_cons.mp hs with rfl | hs
    · exact List.mem_append_left _ (mem_asked_perform files a first step hq)
    · exact List.mem_append_right _ (ih hlast hs)

end Assembly
end PromptWeave
