import PromptWeave.Section.Basic

/-! Sections as JSON. -/
namespace PromptWeave
open Json

namespace SectionItem

def headFields (head : SectionHead) (items : Json) : Json := .object [
  ("title", head.title.map Json.str),
  ("kind", some (.str head.kind.name)),
  ("items", some items),
  ("weight", head.weight.map fun w => .num (.float w)),
  ("item_weight", head.itemWeight.map fun w => .num (.float w)),
  ("parameters", head.parameters.map Parameters.encode)]

mutual
/-- An item is an object whose one key tells leaves and sections apart. -/
def encode : SectionItem → Json
  | .leaf l => .obj [("text", l.encode)]
  | .branch head items => .obj [("section", headFields head (.arr (encodeItems items)))]
def encodeItems : List SectionItem → List Json
  | [] => []
  | i :: is => encode i :: encodeItems is
end

end SectionItem

namespace Section

def encode (s : Section) : Json :=
  SectionItem.headFields s.head (.arr (SectionItem.encodeItems s.items))

def fieldNames : List String := ["title", "kind", "items", "weight", "item_weight", "parameters"]

def headOf (fields : Record) : Except Fault SectionHead := do
  return {
    title := ← fields.optionalOrNone "title" Decode.string
    kind := ← fields.withDefault "kind" default Kind.decode
    weight := ← fields.optionalOrNone "weight" Decode.real
    itemWeight := ← fields.optionalOrNone "item_weight" Decode.real
    parameters := ← fields.optionalOrNone "parameters" Decode.dict }

mutual
/-- Reads a section that is nested at most `fuel` deep. -/
def decodeWithin : Nat → Raw → Except Fault Section
  | 0, _ => .error .tooDeep
  | fuel + 1, r => do
    let fields ← Decode.record fieldNames r
    let head ← headOf fields
    let items ← fields.withDefault "items" [] (Decode.list (decodeItemWithin fuel))
    return ⟨head, items⟩
def decodeItemWithin : Nat → Raw → Except Fault SectionItem
  | 0, _ => .error .tooDeep
  | _ + 1, .obj [(some "text", r)] => do return .leaf (← Leaf.decode r)
  | fuel + 1, .obj [(some "section", r)] => do return (← decodeWithin fuel r).toItem
  | _, .faulty f => .error f
  | _, _ => .error (.mismatch "a leaf or a section")
end

def decode (r : Raw) : Except Fault Section := decodeWithin r.depth r

end Section

def SectionItem.decode (r : Raw) : Except Fault SectionItem := Section.decodeItemWithin r.depth r

end PromptWeave
