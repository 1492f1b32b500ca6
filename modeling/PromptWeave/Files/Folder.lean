import PromptWeave.Files.Reading
import PromptWeave.Markdown.Parser
import PromptWeave.NamePattern.IgnoreSet

/-! Folders of prompt files as sections.
One file of a folder may name its section and give it a text of its own; each other file becomes a
section inside. What cannot be read is left out with a warning. -/
namespace PromptWeave

structure FolderOptions where
  ignorePatterns : List String
  parameters : Parameters
  /-- The name of the file that stands for the folder itself. -/
  contextFile : String
  sorted : Bool
  kind : Kind

def FolderOptions.standard : FolderOptions :=
  ⟨IgnoreSet.defaultPatterns, .empty, "context.md", true, .context⟩

instance : Inhabited FolderOptions := ⟨.standard⟩

structure FolderReader where
  options : FolderOptions
  ignored : IgnoreSet

namespace FolderReader

/-- Warns of patterns that cannot be used. -/
def ofOptions (options : FolderOptions) : Reading FolderReader := do
  let (ignored, warnings) := IgnoreSet.ofPatterns options.ignorePatterns
  Reading.warnings warnings
  return ⟨options, ignored⟩

def newSection (r : FolderReader) (title : String) : Section :=
  let params := r.options.parameters
  .create ⟨some title, r.options.kind, none, none, if params.isEmpty then none else some params⟩

/-- Appends a text unless it is empty. -/
def addBody (s : Section) (body : String) : Section := if body = "" then s else s.append (.text body)

/-- The section of the folder itself, given the text that stands for it. -/
def headSection (r : FolderReader) (name text : String) : Section :=
  let (title, body) := Markdown.splitLeadingHeading text
  addBody (r.newSection (title.getD name)) body

def isMarkdown (name : String) : Bool :=
  (Path.extension ⟨name⟩).map (·.map Char.toLower) = some ['m', 'd']

/-- A Markdown file has the title of its leading heading; otherwise the name is the title. -/
def fileSection (r : FolderReader) (name text : String) : Section :=
  if isMarkdown name then r.headSection name text
  else addBody (r.newSection name) (trimmed text)

/-- Whether an entry of a folder is one of its files. -/
def isListed (r : FolderReader) (folder : Path) (name : String) : Reading Bool :=
  if name = r.options.contextFile then .done false
  else
    let p := folder.join ⟨name⟩
    .isFile p fun
      | .ok true => .done (!r.ignored.ignores name)
      | .ok false => .done false
      | .error e =>
        .warn ("Skipping unreadable entry: " ++ (Error.fileRead p e).sanitized) (.done false)

def listed (r : FolderReader) (folder : Path) : List String → Reading (List String)
  | [] => .done []
  | name :: names => do
    let keep ← r.isListed folder name
    let rest ← r.listed folder names
    return if keep then name :: rest else rest

def sortNames (names : List String) : List String := names.mergeSort fun a b => decide (a ≤ b)

def fileNames (r : FolderReader) (folder : Path) : Attempt (List String) := do
  let names ← r.listed folder (← Files.names folder)
  return if r.options.sorted then sortNames names else names

/-- The last name of the path, or else the path as it is written. -/
def defaultTitle (folder : Path) : String :=
  match folder.fileName with
  | some name => String.ofList name
  | none => folder.text

def readHead (r : FolderReader) (folder : Path) : Reading Section :=
  let p := folder.join ⟨r.options.contextFile⟩
  let title := defaultTitle folder
  .text p fun
    | .ok text => .done (r.headSection title text)
    | .error .notFound => .done (r.newSection title)
    | .error e =>
      .warn ("Skipping unreadable context file: " ++ (Error.fileRead p e).sanitized)
        (.done (r.newSection title))

def readFile (r : FolderReader) (folder : Path) (name : String) : Reading (Option Section) :=
  let p := folder.join ⟨name⟩
  .text p fun
    | .ok text => .done (some (r.fileSection name text))
    | .error e =>
      .warn ("Skipping unreadable file: " ++ (Error.fileRead p e).sanitized) (.done none)

def readFiles (r : FolderReader) (folder : Path) (s : Section) : List String → Reading Section
  | [] => .done s
  | name :: names => do
    match ← r.readFile folder name with
    | some inner => r.readFiles folder (s.append (.nested inner)) names
    | none => r.readFiles folder s names

/-- The section of a folder, which fails only when the folder cannot be listed. -/
def load (r : FolderReader) (folder : Path) : Attempt Section := do
  let names ← r.fileNames folder
  let head ← r.readHead folder
  r.readFiles folder head names

/-- The sections of the folders that can be listed, in order. -/
def loadAll (r : FolderReader) : List Path → Reading (List Section)
  | [] => .done []
  | folder :: more => do
    match ← (r.load folder).run with
    | .ok s => return s :: (← r.loadAll more)
    | .error e =>
      Reading.warning ("Skipping context directory: " ++ e.sanitized)
      r.loadAll more

end FolderReader
end PromptWeave
