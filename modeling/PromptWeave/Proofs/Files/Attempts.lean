import PromptWeave.Files.Reading

/-! What a reading asks for and how an attempt ends.
The questions of two readings in a row are those of the first and then those of the second; an
attempt that fails asks nothing more. -/
namespace PromptWeave

namespace Reading

variable {α β : Type}

/-- The paths that a reading asks about on a file system, in order. -/
def asked (files : FileSystem) : Reading α → List Path
  | .done _ => []
  | .text p next => p :: asked files (next (files.text p))
  | .names p next => p :: asked files (next (files.names p))
  | .isFile p next => p :: asked files (next (files.isFile p))
  | .warn _ next => asked files next

@[simp] theorem asked_pure (files : FileSystem) (a : α) : asked files (pure a) = [] := rfl

@[simp] theorem asked_bind (files : FileSystem) (r : Reading α) (f : α → Reading β) :
    asked files (r >>= f) = asked files r ++ asked files (f (run files r).1) := by
  change asked files (r.bind f) = _
  induction r with
  | done a => rfl
  | text p next ih => simp only [Reading.bind, asked, run, ih, List.cons_append]
  | names p next ih => simp only [Reading.bind, asked, run, ih, List.cons_append]
  | isFile p next ih => simp only [Reading.bind, asked, run, ih, List.cons_append]
  | warn w next ih => simp only [Reading.bind, asked, run, ih]

end Reading

namespace Attempt

variable {α β : Type}

def perform (files : FileSystem) (x : Attempt α) : Except Error α × List String :=
  Reading.run files (ExceptT.run x)

def result (files : FileSystem) (x : Attempt α) : Except Error α := (x.perform files).1

def asked (files : FileSystem) (x : Attempt α) : List Path := Reading.asked files (ExceptT.run x)

@[simp] theorem perform_pure (files : FileSystem) (a : α) :
    perform files (pure a : Attempt α) = (.ok a, []) := rfl

@[simp] theorem perform_throw (files : FileSystem) (e : Error) :
    perform files (throw e : Attempt α) = (.error e, []) := rfl

theorem perform_bind_ok {files : FileSystem} {x : Attempt α} {a : α} {w : List String}
    (f : α → Attempt β) (h : x.perform files = (.ok a, w)) :
    (x >>= f).perform files = (((f a).perform files).1, w ++ ((f a).perform files).2) := by
  change Reading.run files (ExceptT.run x >>= ExceptT.bindCont f) = _
  rw [Reading.run_bind]
  change Reading.run files (ExceptT.run x) = _ at h
  rw [h]
  rfl

theorem perform_bind_error {files : FileSystem} {x : Attempt α} {e : Error} {w : List String}
    (f : α → Attempt β) (h : x.perform files = (.error e, w)) :
    (x >>= f).perform files = (.error e, w) := by
  change Reading.run files (ExceptT.run x >>= ExceptT.bindCont f) = _
  rw [Reading.run_bind]
  change Reading.run files (ExceptT.run x) = _ at h
  rw [h]
  simp [ExceptT.bindCont]

@[simp] theorem result_pure (files : FileSystem) (a : α) :
    result files (pure a : Attempt α) = .ok a := rfl

@[simp] theorem result_throw (files : FileSystem) (e : Error) :
    result files (throw e : Attempt α) = .error e := rfl

theorem result_bind (files : FileSystem) (x : Attempt α) (f : α → Attempt β) :
    (x >>= f).result files = (x.result files).bind fun a => (f a).result files := by
  rcases h : x.perform files with ⟨a | a, w⟩
  · simp [result, perform_bind_error f h, h, Except.bind]
  · simp [result, perform_bind_ok f h, h, Except.bind]

theorem result_bind_eq_ok {files : FileSystem} {x : Attempt α} {f : α → Attempt β} {b : β} :
    (x >>= f).result files = .ok b ↔
      ∃ a, x.result files = .ok a ∧ (f a).result files = .ok b := by
  rcases h : x.perform files with ⟨a | a, w⟩
  · simp [result, perform_bind_error f h, h]
  · simp [result, perform_bind_ok f h, h]

/-- A reading that cannot fail, as part of an attempt. -/
theorem result_lift (files : FileSystem) (x : Reading α) :
    result files (liftM x : Attempt α) = .ok (Reading.run files x).1 := by
  change (Reading.run files (x >>= fun a => pure (Except.ok a))).1 = _
  rw [Reading.run_bind]
  rfl

theorem asked_bind_ok {files : FileSystem} {x : Attempt α} {a : α} (f : α → Attempt β)
    (h : x.result files = .ok a) :
    (x >>= f).asked files = x.asked files ++ (f a).asked files := by
  change Reading.asked files (ExceptT.run x >>= ExceptT.bindCont f) = _
  rw [Reading.asked_bind]
  change (Reading.run files (ExceptT.run x)).1 = _ at h
  rw [h]
  rfl

/-- What the first of two attempts asks is asked whatever comes of it. -/
theorem asked_subset_bind (files : FileSystem) (x : Attempt α) (f : α → Attempt β) :
    x.asked files ⊆ (x >>= f).asked files := by
  change _ ⊆ Reading.asked files (ExceptT.run x >>= ExceptT.bindCont f)
  rw [Reading.asked_bind]
  exact List.subset_append_left _ _

end Attempt
end PromptWeave
