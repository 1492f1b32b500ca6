import PromptWeave.Files.Folder
import PromptWeave.Files.Override
import PromptWeave.Prompt

/-! Prompts put together step by step.
Every step but the structured result changes the section of one area, and what it puts there does
not depend on the prompt so far. -/
namespace PromptWeave

/-- Where files are found, and which parameters apply to all that is put in. -/
structure Assembly where
  base : Path
  parameters : Parameters
  overrides : Overrides
  folders : FolderOptions

namespace Assembly

def standard : Assembly := ⟨⟨"."⟩, .empty, .none, .standard⟩

instance : Inhabited Assembly := ⟨standard⟩

inductive Step
  | add (area : Area) (options : AddOptions) (input : SectionInput)
  | file (area : Area) (p : Path)
  | folders (area : Area) (ps : List Path)
  | output (o : StructuredOutput)

/-- The area that a step changes. -/
def Step.area? : Step → Option Area
  | .add area _ _ | .file area _ | .folders area _ => some area
  | .output _ => none

/-- A relative path is seen from the base. -/
def locate (a : Assembly) (p : Path) : Path := if p.isAbsolute then p else a.base.join p

/-- The parameters of a call come before those of the assembly. -/
def options (a : Assembly) (o : AddOptions) : AddOptions :=
  ⟨o.weight, Parameters.layer o.parameters (some a.parameters)⟩

def markdown (a : Assembly) (area : Area) : Markdown.Options := ⟨a.parameters, area.kind⟩

/-- The section of a prompt file with its local changes. -/
def document (a : Assembly) (area : Area) (p : Path) : Attempt Section := do
  let parser := a.markdown area
  a.overrides.customize parser p (← Markdown.parseFile parser (a.locate p))

/-- A section without a title gives its items, one with a title is put in whole. -/
def addDocument (s document : Section) : Section :=
  match document.head.title with
  | none => s.extendFrom document
  | some _ => s.append (.nested document)

def folderOptions (a : Assembly) (area : Area) : FolderOptions :=
  { a.folders with parameters := a.folders.parameters.onto a.parameters, kind := area.kind }

def sections (a : Assembly) (area : Area) (ps : List Path) : Reading (List Section) := do
  (← FolderReader.ofOptions (a.folderOptions area)).loadAll (ps.map a.locate)

def addSections (s : Section) (inner : List Section) : Section :=
  inner.foldl (fun s t => s.append (.nested t)) s

def perform (a : Assembly) (p : Prompt) : Step → Attempt Prompt
  | .add area o input => return p.updateSection area fun s => s.appendWith (a.options o) input
  | .file area path => do
    let document ← a.document area path
    return p.updateSection area fun s => addDocument s document
  | .folders area paths => do
    let inner ← a.sections area paths
    return p.updateSection area fun s => addSections s inner
  | .output o => return { p with structuredOutput := some o }

/-- All steps in turn, up to the first that fails. -/
def build (a : Assembly) (steps : List Step) : Attempt Prompt := steps.foldlM a.perform .empty

/-- Work on a prompt that is put together. What was done to the prompt stays when the work
fails. -/
abbrev Work := ExceptT Error (StateT Prompt Reading)

/-- Work that leaves the prompt alone. -/
def aside {α : Type} (x : Attempt α) : Work α := ExceptT.mk (StateT.lift x.run)

/-- The same as `perform` on a prompt that is changed in place. -/
def call (a : Assembly) : Step → Work Unit
  | .add area o input =>
    modify fun p => p.updateSection area fun s => s.appendWith (a.options o) input
  | .file area path => do
    let document ← aside (a.document area path)
    modify fun p => p.updateSection area fun s => addDocument s document
  | .folders area paths => do
    let inner ← aside (a.sections area paths)
    modify fun p => p.updateSection area fun s => addSections s inner
  | .output o => modify fun p => { p with structuredOutput := some o }

/-- All steps in turn on one prompt, those behind a step that fails as well, with the answer to
each. -/
def calls (a : Assembly) : List Step → StateT Prompt Reading (List (Except Error Unit))
  | [] => return []
  | step :: steps => do return (← (a.call step).run) :: (← a.calls steps)

end Assembly
end PromptWeave
