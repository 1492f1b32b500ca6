import PromptWeave.Schema.Inlining
import PromptWeave.Unicode.Case

/-! Schemas in the form that each provider takes.
One provider takes them as they are. One takes the schema of an object only. One knows neither
references nor unions of types, writes types in capitals and says in a field of its own that a
value may be null. -/
namespace PromptWeave
namespace Schema

/-- The schema of the input of a tool. -/
def asToolInput : Json → Except SchemaFault Json
  | .obj fields => match Assoc.find? "type" fields with
    | none => .ok (.obj (Assoc.insert "type" (.str "object") (Assoc.erase "$schema" fields)))
    | some (.str "object") => .ok (.obj (Assoc.erase "$schema" fields))
    | some type => .error (.toolNotObject type)
  | schema => .ok schema

/-- The type in capitals; a union with null becomes the other type and a field of its own. -/
def capitalType (type : Json) : Except SchemaFault (List (String × Json)) :=
  match type with
  | .str t => .ok [("type", .str (uppercase t))]
  | .arr types => match (types.filterMap Json.str?).filter (· ≠ "null") with
    | [t] =>
      if types.length = 1 then .ok [("type", .str (uppercase t))]
      else .ok [("type", .str (uppercase t)), ("nullable", .bool true)]
    | _ => .error (.typeUnion type)
  | other => .ok [("type", other)]

/-- How the keywords of a schema without references are treated, the type apart. -/
def capitalizing (keyword : String) : Treatment :=
  if keyword = "$schema" ∨ keyword = "additionalProperties" then .drop
  else if keyword = "properties" then .properties
  else if ["items", "anyOf", "allOf", "oneOf"].contains keyword then .nested
  else .keep

mutual
/-- A schema with types in capitals. -/
def capitalize : Json → Except SchemaFault Json
  | .arr items => do return .arr (← capitalizeAll items)
  | .obj fields => do return .obj (Assoc.ofList (← capitalizeFields fields))
  | v => .ok v
def capitalizeAll : List Json → Except SchemaFault (List Json)
  | [] => .ok []
  | v :: vs => do
    let v ← capitalize v
    return v :: (← capitalizeAll vs)
def capitalizeFields : List (String × Json) → Except SchemaFault (List (String × Json))
  | [] => .ok []
  | (k, v) :: rest => do
    let new ← if k = "type" then capitalType v else do
      pure ((← capitalizeField (capitalizing k) v).toList.map fun w => (k, w))
    return new ++ (← capitalizeFields rest)
/-- The new value of a field; none if the field is dropped. -/
def capitalizeField : Treatment → Json → Except SchemaFault (Option Json)
  | .drop, _ => .ok none
  | .nested, v => do return some (← capitalize v)
  | .properties, .obj fields => do return some (.obj (← capitalizeProperties fields))
  | .properties, v | .keep, v => .ok (some v)
def capitalizeProperties : List (String × Json) → Except SchemaFault (List (String × Json))
  | [] => .ok []
  | (name, v) :: rest => do
    let v ← capitalize v
    return (name, v) :: (← capitalizeProperties rest)
end

/-- The schema as a provider takes it. -/
def adaptFor (p : Provider) (schema : Json) : Except SchemaFault Json :=
  match p with
  | .openai => .ok schema
  | .anthropic => asToolInput schema
  | .gemini => do capitalize (← inlineReferences schema)

def adapt (p : Provider) (schema : Json) : Except Error Json :=
  match adaptFor p schema with
  | .ok s => .ok s
  | .error fault => .error (.schemaTranslation p fault)

end Schema
end PromptWeave
