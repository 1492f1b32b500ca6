import PromptWeave.Json.Printer
import PromptWeave.Placeholder

/-! Parameters: values that take the place of placeholders.
A placeholder whose path leads to no value stays as it stands, and a value that was put in is not
looked at again. -/
namespace PromptWeave

abbrev Parameters := Dict Json

namespace Parameters

/-- A whole number below `2 ^ 64`, a plus sign being allowed. -/
def index? (s : List Char) : Option Nat :=
  let digits := match s with
    | '+' :: rest => rest
    | s => s
  if digits.isEmpty || !digits.all Char.isDigit then none
  else
    let n := digits.foldl (fun n c => n * 10 + (c.toNat - '0'.toNat)) 0
    if n < Nat.pow 2 64 then some n else none

/-- One step into a value: by key into an object, by position into an array. -/
def step? (v : Json) (segment : List Char) : Option Json :=
  match v with
  | .obj fields => Assoc.find? (String.ofList segment) fields
  | .arr items => do items[← index? segment]?
  | _ => none

/-- The value that a dotted path leads to. -/
def lookup? (params : Parameters) (path : List Char) : Option Json :=
  match Text.splitAt '.' path with
  | [] => none
  | first :: more => do more.foldlM step? (← params.find? (String.ofList first))

/-- The text that a value is put in as: a string as it is, null as nothing, else compact JSON. -/
def display : Json → List Char
  | .str s => s.toList
  | .null => []
  | v => v.compactChars

/-- The text that takes the place of a piece. -/
def expand (params : Parameters) : Placeholder.Piece → List Char
  | .plain c => [c]
  | .hole p => match lookup? params p.path with
    | some v => display v
    | none => p.source

/-- Puts values in place of the placeholders of a text. -/
def substituteChars (params : Parameters) (cs : List Char) : List Char :=
  if params.isEmpty || !Placeholder.opens cs then cs
  else (Placeholder.pieces cs).flatMap (expand params)

def substitute (params : Parameters) (text : String) : String :=
  String.ofList (substituteChars params text.toList)

/-- Substitutes if there are parameters at all. -/
def substitute? (params : Option Parameters) (text : String) : String :=
  match params with
  | some params => params.substitute text
  | none => text

@[simp] theorem substitute?_none (text : String) : substitute? none text = text := rfl

/-- The parameters of two layers of which either may be missing. -/
def layer (top below : Option Parameters) : Option Parameters :=
  match top, below with
  | some top, some below => some (top.onto below)
  | some top, none => some top
  | none, below => below

@[simp] theorem layer_none_left (below : Option Parameters) : layer none below = below := by
  cases below <;> rfl

@[simp] theorem layer_none_right (top : Option Parameters) : layer top none = top := by
  cases top <;> rfl

def encode (params : Parameters) : Json := .obj params.entries

end Parameters
end PromptWeave
