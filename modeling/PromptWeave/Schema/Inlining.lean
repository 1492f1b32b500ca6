import PromptWeave.Error

/-! Schemas without references.
Each reference is replaced by the definition it names, which must stand in a table at the root.
What stands beside a reference comes before what the definition says. A list of `allOf` with a
single schema is merged into the schema around it. -/
namespace PromptWeave
namespace Schema

def tableNames : List String := ["definitions", "$defs"]

/-- The reference to a definition. -/
def referenceTo (table name : String) : String := "#/" ++ table ++ "/" ++ name

/-- The definitions of a schema by the references to them. -/
def definitions (schema : Json) : Dict Json :=
  Dict.ofList (tableNames.flatMap fun table => match schema.field? table with
    | some (.obj defs) => defs.map fun (name, s) => (referenceTo table name, s)
    | _ => [])

/-- How the keywords of a schema are treated. -/
inductive Treatment
  | drop
  | nested
  | properties
  | keep
deriving DecidableEq, Repr

def inliningOf (keyword : String) : Treatment :=
  if keyword = "definitions" ∨ keyword = "$defs" ∨ keyword = "$ref" then .drop
  else if keyword = "properties" then .properties
  else if ["items", "anyOf", "allOf", "oneOf", "not", "additionalProperties"].contains keyword then
    .nested
  else .keep

/-- Adds the fields that are not there yet. -/
def mergeMissing (fields added : List (String × Json)) : List (String × Json) :=
  added.foldl (fun out (k, v) =>
    if (Assoc.find? k out).isSome then out else Assoc.insert k v out) fields

/-- Merges a single schema of `allOf` into the schema around it. -/
def mergeSingle (fields : List (String × Json)) : List (String × Json) :=
  match Assoc.find? "allOf" fields with
  | some (.arr [.obj only]) => mergeMissing (Assoc.erase "allOf" fields) only
  | _ => fields

/-- Finds the fields that take the place of a reference. -/
abbrev Resolver := Json → Except SchemaFault (List (String × Json))

mutual
/-- Replaces the references of a schema by what a resolver gives. -/
def inlineBy (resolve : Resolver) : Json → Except SchemaFault Json
  | .arr items => do return .arr (← inlineAllBy resolve items)
  | .obj fields => do
    let kept ← inlineFieldsBy resolve fields
    let merged ← match Assoc.find? "$ref" fields with
      | some reference => do pure (mergeMissing kept (← resolve reference))
      | none => pure kept
    return .obj (mergeSingle merged)
  | v => .ok v
def inlineAllBy (resolve : Resolver) : List Json → Except SchemaFault (List Json)
  | [] => .ok []
  | v :: vs => do
    let v ← inlineBy resolve v
    return v :: (← inlineAllBy resolve vs)
def inlineFieldsBy (resolve : Resolver) :
    List (String × Json) → Except SchemaFault (List (String × Json))
  | [] => .ok []
  | (k, v) :: rest => do
    match ← inlineFieldBy resolve (inliningOf k) v with
    | some w => return (k, w) :: (← inlineFieldsBy resolve rest)
    | none => inlineFieldsBy resolve rest
/-- The new value of a field; none if the field is dropped. -/
def inlineFieldBy (resolve : Resolver) : Treatment → Json → Except SchemaFault (Option Json)
  | .drop, _ => .ok none
  | .nested, v => do return some (← inlineBy resolve v)
  | .properties, .obj fields => do return some (.obj (← inlinePropertiesBy resolve fields))
  | .properties, v | .keep, v => .ok (some v)
def inlinePropertiesBy (resolve : Resolver) :
    List (String × Json) → Except SchemaFault (List (String × Json))
  | [] => .ok []
  | (name, v) :: rest => do
    let v ← inlineBy resolve v
    return (name, v) :: (← inlinePropertiesBy resolve rest)
end

/-- Looks a reference up; `within` inlines the definition, this reference being open then. -/
def resolveWith (defs : Dict Json) (resolving : List String)
    (within : List String → Json → Except SchemaFault Json) : Resolver
  | .str path =>
    if resolving.contains path then .error (.recursiveReference path)
    else match defs.find? path with
      | none => .error (.unresolvedReference path)
      | some target => do
        match ← within (path :: resolving) target with
        | .obj fields => return fields
        | other => throw (.referenceNotObject path other)
  | other => .error (.referenceNotString other)

/-- Inlines while up to `fuel` further references can be open at once. -/
def inlineWithin (defs : Dict Json) : (fuel : Nat) → (resolving : List String) → Json →
    Except SchemaFault Json
  | 0, resolving, s => inlineBy (resolveWith defs resolving fun _ target => .ok target) s
  | fuel + 1, resolving, s => inlineBy (resolveWith defs resolving (inlineWithin defs fuel)) s

/-- A schema without references and without tables of definitions. No more references than there
are definitions can be open at once. -/
def inlineReferences (schema : Json) : Except SchemaFault Json :=
  inlineWithin (definitions schema) (definitions schema).size [] schema

end Schema
end PromptWeave
