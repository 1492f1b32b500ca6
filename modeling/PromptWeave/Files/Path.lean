import PromptWeave.Text.Blank

/-! File paths as texts.
A path is kept as it was written; its components are what a file system sees: empty components and
single dots do not count, apart from a single dot in front. -/
namespace PromptWeave

structure Path where
  text : String
deriving DecidableEq, Repr

namespace Path

instance : Inhabited Path := ⟨⟨""⟩⟩

inductive Component
  | root
  | current
  | parent
  | name (s : List Char)
deriving DecidableEq, Repr

def chars (p : Path) : List Char := p.text.toList

def ofChars (cs : List Char) : Path := ⟨String.ofList cs⟩

def isAbsolute (p : Path) : Bool := p.chars.head? == some '/'

/-- The component that a part between slashes stands for. -/
def ofPart (s : List Char) : Option Component :=
  if s = [] ∨ s = ['.'] then none
  else if s = ['.', '.'] then some .parent
  else some (.name s)

def componentsOf (cs : List Char) : List Component :=
  let parts := Text.splitAt '/' cs
  let inner := parts.filterMap ofPart
  if cs.head? = some '/' then .root :: inner
  else if parts.head? = some ['.'] then .current :: inner
  else inner

def components (p : Path) : List Component := componentsOf p.chars

/-- The final component, if it is a name. -/
def fileName (p : Path) : Option (List Char) :=
  match p.components.getLast? with
  | some (.name s) => some s
  | _ => none

/-- On a reversed text: drops the slashes and single dots that end the text. -/
def dropTrailingRev : List Char → List Char
  | '/' :: rest => if rest.isEmpty then ['/'] else dropTrailingRev rest
  | '.' :: '/' :: rest => dropTrailingRev ('/' :: rest)
  | r => r

/-- Drops what follows the last component; a lone slash stays. -/
def dropTrailing (cs : List Char) : List Char := (dropTrailingRev cs.reverse).reverse

/-- The path without its final component; none when there is nothing to drop. -/
def parent (p : Path) : Option Path :=
  match p.components.getLast? with
  | some .root | none => none
  | some _ =>
    let body := dropTrailing p.chars
    some (ofChars (dropTrailing (Text.dropLastWhile (· != '/') body)))

/-- `q` as seen from `p`: an absolute `q` stands alone. -/
def join (p q : Path) : Path :=
  if q.isAbsolute then q
  else if p.text = "" then q
  else if p.chars.getLast? = some '/' then ⟨p.text ++ q.text⟩
  else ⟨p.text ++ "/" ++ q.text⟩

/-- Cuts a name at its last dot; a dot in front does not count. -/
def cutName (s : List Char) : List Char × Option (List Char) :=
  if s = ['.', '.'] then (s, none)
  else match Text.cutAt? '.' s.reverse with
    | none => (s, none)
    | some (_, []) => (s, none)
    | some (ext, stem) => (stem.reverse, some ext.reverse)

def stem (p : Path) : Option (List Char) := p.fileName.map fun s => (cutName s).1

def extension (p : Path) : Option (List Char) := do (cutName (← p.fileName)).2

def Component.text : Component → List Char
  | .root => ['/']
  | .current => ['.']
  | .parent => ['.', '.']
  | .name s => s

/-- The path as seen from the directory `cwd`, its components joined anew. -/
def absolute (cwd p : Path) : Path :=
  let inner := p.components.filter (· != .current)
  let start := if p.isAbsolute then
      if Text.startsWith ['/', '/'] p.chars && !Text.startsWith ['/', '/', '/'] p.chars then
        ⟨"//"⟩
      else ⟨"/"⟩
    else cwd
  let full := (inner.filter (· != .root)).foldl (fun q c => q.join (ofChars c.text)) start
  if p.chars.getLast? = some '/' then full.join ⟨""⟩ else full

end Path
end PromptWeave
