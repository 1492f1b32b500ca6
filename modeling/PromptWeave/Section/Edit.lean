import PromptWeave.Section.Basic

/-! Sections that are edited in place.
A call that puts an item at a place, or takes one away, looks first whether there is such a place. -/
namespace PromptWeave
namespace Section

/-- Work on a section that is edited. What was done to the section stays when the work fails. -/
abbrev Editing := ExceptT Error (StateM Section)

/-- Fails if the place is not below the bound. -/
def demand (index : Nat) (bound : Section → Nat) : Editing Unit := do
  let s ← get
  if bound s ≤ index then throw (.indexOutOfRange index s.size)

/-- Inserts before the item at `index`; `index` may be the number of items. -/
def insertWith (index : Nat) (options : AddOptions) (input : SectionInput) : Editing Unit := do
  demand index fun s => s.size + 1
  modify fun s =>
    { s with items := s.items.take index ++ s.itemOf options input :: s.items.drop index }

def replaceWith (index : Nat) (options : AddOptions) (input : SectionInput) : Editing Unit := do
  demand index size
  modify fun s => { s with items := s.items.set index (s.itemOf options input) }

def remove (index : Nat) : Editing Unit := do
  demand index size
  modify fun s => { s with items := s.items.eraseIdx index }

/-- A call that edits a section. Without options it asks for none. -/
inductive Edit
  | append (options : AddOptions) (input : SectionInput)
  | prepend (options : AddOptions) (input : SectionInput)
  | insert (index : Nat) (options : AddOptions) (input : SectionInput)
  | replace (index : Nat) (options : AddOptions) (input : SectionInput)
  | remove (index : Nat)
  | extendFrom (other : Section)
  | prependFrom (other : Section)

def call : Edit → Editing Unit
  | .append options input => modify fun s => s.appendWith options input
  | .prepend options input => modify fun s => s.prependWith options input
  | .insert index options input => insertWith index options input
  | .replace index options input => replaceWith index options input
  | .remove index => remove index
  | .extendFrom other => modify fun s => s.extendFrom other
  | .prependFrom other => modify fun s => s.prependFrom other

/-- All calls in turn, those behind one that fails as well, with the answer to each. -/
def calls : List Edit → StateM Section (List (Except Error Unit))
  | [] => return []
  | e :: edits => do return (← (call e).run) :: (← calls edits)

end Section
end PromptWeave
