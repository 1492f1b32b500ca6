import PromptWeave.Files.Reading
import PromptWeave.Text.Blank

/-! File trees in memory.
A path is followed part by part from the working directory or from the root. What stands before a
slash has to be a directory, and at most forty symbolic links are followed on the way. -/
namespace PromptWeave

inductive FileEntry
  | file (content : ByteArray)
  | directory
  | link (target : Path)

/-- Entries by the names that lead to them from the root, which itself needs no entry. -/
structure FileTree where
  entries : List (List String × FileEntry)

namespace FileTree

def empty : FileTree := ⟨[]⟩

def entry? (t : FileTree) (place : List String) : Option FileEntry :=
  if place = [] then some .directory else t.entries.lookup place

/-- Adds an entry unless there is one; directories that lead to it are made. -/
def addBelow (t : FileTree) (place : List String) (e : FileEntry) : List String → FileTree
  | [] => t
  | [name] =>
    if (t.entry? (place ++ [name])).isSome then t else ⟨t.entries ++ [(place ++ [name], e)]⟩
  | name :: more =>
    let here := place ++ [name]
    let t := if (t.entry? here).isSome then t else ⟨t.entries ++ [(here, .directory)]⟩
    t.addBelow here e more

def partsOf (p : Path) : List String := (Text.splitAt '/' p.chars).map String.ofList

def add (t : FileTree) (p : Path) (e : FileEntry) : FileTree :=
  t.addBelow [] e ((partsOf p).filter (· ≠ ""))

/-- The most bytes that a name may have. -/
def nameLimit : Nat := 255

/-- The most bytes that a path may have. -/
def pathLimit : Nat := 4095

def tooLong : OsError := .other "File name too long (os error 36)"

/-- One walk along the parts of a path; `jump` follows a link from the directory it stands in. -/
def walkWith (t : FileTree)
    (jump : List String → Path → List String → Except OsError (List String)) :
    List String → List String → Except OsError (List String)
  | place, [] => .ok place
  | place, part :: more => match t.entry? place with
    | some .directory =>
      if part = "" ∨ part = "." then walkWith t jump place more
      else if part = ".." then walkWith t jump place.dropLast more
      else if nameLimit < part.utf8ByteSize then .error tooLong
      else match t.entry? (place ++ [part]) with
        | some (.link target) => jump place target more
        | some _ => walkWith t jump (place ++ [part]) more
        | none => .error .notFound
    | some _ => .error .notADirectory
    | none => .error .notFound

/-- Where the parts of a path lead when at most `links` links are followed. -/
def walk (t : FileTree) : Nat → List String → List String → Except OsError (List String)
  | 0 => t.walkWith fun _ _ _ => .error .tooManyLinks
  | links + 1 => t.walkWith fun place target more =>
    t.walk links (if target.isAbsolute then [] else place) (partsOf target ++ more)

/-- The place a path leads to. -/
def follow (t : FileTree) (working : List String) (p : Path) : Except OsError (List String) :=
  if p.text = "" then .error .notFound
  else if p.chars.contains '\x00' then
    .error (.other "file name contained an unexpected NUL byte")
  else if pathLimit < p.text.utf8ByteSize then .error tooLong
  else t.walk 40 (if p.isAbsolute then [] else working) (partsOf p)

/-- What a path leads to. -/
def reach (t : FileTree) (working : List String) (p : Path) :
    Except OsError (List String × FileEntry) := do
  let place ← t.follow working p
  match t.entry? place with
  | some e => return (place, e)
  | none => throw .notFound

/-- The names directly below a place. -/
def namesAt (t : FileTree) (place : List String) : List String :=
  t.entries.filterMap fun (other, _) =>
    if other.dropLast = place then other.getLast? else none

def text (t : FileTree) (working : List String) (p : Path) : Except OsError String := do
  match ← t.reach working p with
  | (_, .file content) => match String.fromUTF8? content with
    | some s => return s
    | none => throw .notUtf8
  | _ => throw .isADirectory

def names (t : FileTree) (working : List String) (p : Path) : Except OsError (List String) := do
  match ← t.reach working p with
  | (place, .directory) => return t.namesAt place
  | _ => throw .notADirectory

def isFile (t : FileTree) (working : List String) (p : Path) : Except OsError Bool := do
  match ← t.reach working p with
  | (_, .file _) => return true
  | _ => return false

/-- The tree as a file system, seen from a working directory. -/
def system (t : FileTree) (working : Path) : FileSystem :=
  let place := (partsOf working).filter (· ≠ "")
  ⟨t.text place, t.names place, t.isFile place⟩

end FileTree
end PromptWeave
