import PromptWeave.Files.Document
import PromptWeave.Json.Decode

/-! Local changes to prompt files.
Beside the place that a prompt file `dir/name.md` has below an override directory, `name-pre.md` and
`name-post.md` put items around those of the file, and `name.md` replaces them if that is allowed.
Each directory changes what those before it have made. -/
namespace PromptWeave
open Json

def Path.encode (p : Path) : Json := .str p.text

def Path.decode (r : Raw) : Except Fault Path := do return ⟨← Decode.string r⟩

structure Overrides where
  directories : List Path
  allowFull : Bool
deriving DecidableEq

namespace Overrides

def none : Overrides := ⟨[], false⟩

instance : Inhabited Overrides := ⟨none⟩

def isEmpty (o : Overrides) : Bool := o.directories.isEmpty

/-- The names of the files that change a file. -/
structure Names where
  full : Path
  before : Path
  after : Path

/-- Where the files that change a file are, seen from an override directory. -/
def names? (relative : Path) : Option Names := do
  let stem ← relative.stem
  let name ← relative.fileName
  let extension := relative.extension.getD ['m', 'd']
  let folder := relative.parent.getD ⟨""⟩
  let named (s : List Char) := folder.join (.ofChars s)
  return ⟨named name, named (stem ++ "-pre.".toList ++ extension),
    named (stem ++ "-post.".toList ++ extension)⟩

/-- Lets the file at `p`, if there is one, change a section. -/
def change (parser : Markdown.Options) (p : Path) (f : Section → Section → Section) (s : Section) :
    Attempt Section := do
  if ← Files.present p then return f s (← Markdown.parseFile parser p)
  return s

/-- The file that replaces the section, if there is one. -/
def replace (o : Overrides) (parser : Markdown.Options) (p : Path) (s : Section) :
    Attempt Section := do
  if ← Files.present p then
    if o.allowFull then Markdown.parseFile parser p else throw (.overrideNotAllowed p)
  else return s

/-- The changes that one directory makes. -/
def customizeIn (o : Overrides) (parser : Markdown.Options) (names : Names) (s : Section)
    (directory : Path) : Attempt Section := do
  let s ← o.replace parser (directory.join names.full) s
  let s ← change parser (directory.join names.before) Section.prependFrom s
  change parser (directory.join names.after) Section.extendFrom s

/-- Changes a section that came from the file at `relative`. -/
def customize (o : Overrides) (parser : Markdown.Options) (relative : Path) (s : Section) :
    Attempt Section :=
  match names? relative with
  | .none => return s
  | some names => o.directories.foldlM (o.customizeIn parser names) s

def fieldNames : List String := ["directories", "allow_full_override"]

/-- The second field has a shorter spelling. -/
def spelling (key : String) : String :=
  if key = "allow_full" then "allow_full_override" else key

def encode (o : Overrides) : Json := .obj [
  ("directories", .arr (o.directories.map Path.encode)),
  ("allow_full_override", .bool o.allowFull)]

def decode (r : Raw) : Except Fault Overrides := do
  let fields ← Record.ofRaw spelling fieldNames r
  return {
    directories := ← fields.withDefault "directories" [] (Decode.list Path.decode)
    allowFull := ← fields.withDefault "allow_full_override" false Decode.bool }

end Overrides
end PromptWeave
