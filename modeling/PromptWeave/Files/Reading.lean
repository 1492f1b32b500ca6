import PromptWeave.Error

/-! Work on files, as a tree of questions.
A reading asks for texts, for the names in a directory and for what a path leads to, and gives
warnings on its way; a file system answers. Symbolic links are followed. -/
namespace PromptWeave

structure FileSystem where
  text : Path → Except OsError String
  names : Path → Except OsError (List String)
  /-- Whether a path leads to a regular file. -/
  isFile : Path → Except OsError Bool

inductive Reading (α : Type)
  | done (a : α)
  | text (p : Path) (next : Except OsError String → Reading α)
  | names (p : Path) (next : Except OsError (List String) → Reading α)
  | isFile (p : Path) (next : Except OsError Bool → Reading α)
  | warn (warning : String) (next : Reading α)

namespace Reading

variable {α β : Type}

def bind : Reading α → (α → Reading β) → Reading β
  | .done a, f => f a
  | .text p next, f => .text p fun r => (next r).bind f
  | .names p next, f => .names p fun r => (next r).bind f
  | .isFile p next, f => .isFile p fun r => (next r).bind f
  | .warn w next, f => .warn w (next.bind f)

instance : Monad Reading where
  pure := .done
  bind := bind

/-- The result on a file system, and the warnings in order. -/
def run (files : FileSystem) : Reading α → α × List String
  | .done a => (a, [])
  | .text p next => run files (next (files.text p))
  | .names p next => run files (next (files.names p))
  | .isFile p next => run files (next (files.isFile p))
  | .warn w next => let r := run files next; (r.1, w :: r.2)

@[simp] theorem run_pure (files : FileSystem) (a : α) : run files (pure a) = (a, []) := rfl

@[simp] theorem run_bind (files : FileSystem) (r : Reading α) (f : α → Reading β) :
    run files (r >>= f) = ((run files (f (run files r).1)).1,
      (run files r).2 ++ (run files (f (run files r).1)).2) := by
  change run files (r.bind f) = _
  induction r with
  | done a => rfl
  | text p next ih => exact ih _
  | names p next ih => exact ih _
  | isFile p next ih => exact ih _
  | warn w next ih => simp [Reading.bind, run, ih]

def warning (text : String) : Reading Unit := .warn text (.done ())

def warnings (texts : List String) : Reading Unit := texts.forM warning

end Reading

/-- A reading that may fail. -/
abbrev Attempt := ExceptT Error Reading

namespace Files

def text (p : Path) : Attempt String :=
  ExceptT.mk (.text p fun r => .done (r.mapError (.fileRead p)))

def names (p : Path) : Attempt (List String) :=
  ExceptT.mk (.names p fun r => .done (r.mapError (.fileRead p)))

/-- Whether a path leads anywhere. -/
def present (p : Path) : Attempt Bool :=
  ExceptT.mk (.isFile p fun r => .done (match r with
    | .ok _ => .ok true
    | .error .notFound => .ok false
    | .error e => .error (.fileRead p e)))

end Files
end PromptWeave
