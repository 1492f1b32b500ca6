import PromptWeave.Error
import PromptWeave.Json.Decode
import PromptWeave.Parameters

/-! Leaves: single texts of a prompt.
Parameters are put into the text when the leaf is made, and again when the leaf is added to a
section; the leaf's own come first, because they have used up their placeholders. -/
namespace PromptWeave

abbrev Weight := BinaryFloat

/-- What a leaf is for. -/
inductive Kind
  | instruction
  | context
  | content
  | trait
deriving DecidableEq, Repr

namespace Kind

instance : Inhabited Kind := ⟨.instruction⟩

def name : Kind → String
  | .instruction => "instruction"
  | .context => "context"
  | .content => "content"
  | .trait => "trait"

def names : List (String × Kind) :=
  [("instruction", .instruction), ("context", .context), ("content", .content), ("trait", .trait)]

def decode : Json.Decoder Kind := Json.Decode.constant names

end Kind

structure Leaf where
  kind : Kind
  text : String
  weight : Option Weight
  parameters : Option Parameters
  title : Option String
deriving DecidableEq

/-- What a leaf is made from. -/
structure LeafOptions where
  kind : Kind
  text : Option String
  weight : Option Weight
  parameters : Option Parameters
  title : Option String
deriving DecidableEq

namespace Leaf

/-- A leaf of a text alone. -/
def ofText (kind : Kind) (text : String) : Leaf := ⟨kind, text, none, none, none⟩

/-- Needs a text; text and title take the parameters given. -/
def create (o : LeafOptions) : Except Error Leaf :=
  match o.text with
  | none => .error .missingText
  | some text => .ok {
      kind := o.kind
      text := Parameters.substitute? o.parameters text
      weight := o.weight
      parameters := o.parameters
      title := o.title.map (Parameters.substitute? o.parameters) }

def withWeight (leaf : Leaf) (weight : Weight) : Leaf := { leaf with weight := some weight }

/-- Puts parameters into the text, and keeps them if the leaf has none of its own. -/
def resolved (params : Option Parameters) (leaf : Leaf) : Leaf :=
  match params with
  | none => leaf
  | some params => { leaf with
      text := params.substitute leaf.text
      parameters :=
        if leaf.parameters = none ∧ params.isEmpty = false then some params else leaf.parameters }

@[simp] theorem resolved_none (leaf : Leaf) : resolved none leaf = leaf := rfl

/-- Whether there is anything but blanks to show. -/
def hasContent (leaf : Leaf) : Bool := !blank leaf.text

def encode (leaf : Leaf) : Json := .object [
  ("kind", some (.str leaf.kind.name)),
  ("text", some (.str leaf.text)),
  ("weight", leaf.weight.map fun w => .num (.float w)),
  ("parameters", leaf.parameters.map Parameters.encode),
  ("title", leaf.title.map Json.str)]

open Json in
def decode (r : Raw) : Except Fault Leaf := do
  let fields ← Decode.record ["kind", "text", "weight", "parameters", "title"] r
  return {
    kind := ← fields.required "kind" Kind.decode
    text := ← fields.required "text" Decode.string
    weight := ← fields.optionalOrNone "weight" Decode.real
    parameters := ← fields.optionalOrNone "parameters" Decode.dict
    title := ← fields.optionalOrNone "title" Decode.string }

end Leaf
end PromptWeave
