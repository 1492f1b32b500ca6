import PromptWeave.Json.Compare
import PromptWeave.Regex.Basic
import PromptWeave.Schema.Reference
import PromptWeave.Schema.Violation

/-! Schemas that can be used.
A schema is a boolean or an object whose known keywords have values of the right form. It can be
used if all references and patterns that are reached from it can be resolved. -/
namespace PromptWeave
namespace Schema

/-- In older schemas a reference makes all keywords beside it void. -/
inductive Dialect
  | current
  | older
deriving DecidableEq, Repr

def currentNames : List String :=
  ["https://json-schema.org/draft/2020-12/schema", "https://json-schema.org/draft/2019-09/schema"]

def olderNames : List String :=
  ["http://json-schema.org/draft-07/schema", "http://json-schema.org/draft-06/schema",
    "http://json-schema.org/draft-04/schema"]

def withoutHash (s : String) : String := String.ofList (Text.dropLastWhile (· == '#') s.toList)

/-- The dialect that a schema names, if it is known. -/
def dialect? (schema : Json) : Option Dialect :=
  match (schema.field? "$schema").bind Json.str? with
  | none => some .current
  | some s =>
    if currentNames.contains (withoutHash s) then some .current
    else if olderNames.contains (withoutHash s) then some .older
    else none

/-! ### Forms of keywords -/

/-- What the value of a keyword is. -/
inductive Role
  | schema
  | schemas
  | schemaOrSchemas
  | schemaMap
  | plain (accepts : Json → Bool)

def isString : Json → Bool
  | .str _ => true
  | _ => false

def isBool : Json → Bool
  | .bool _ => true
  | _ => false

def isNumber : Json → Bool
  | .num _ => true
  | _ => false

def isArray : Json → Bool
  | .arr _ => true
  | _ => false

def isPositive : Json → Bool
  | .num n => Json.Number.lt (.int 0) n
  | _ => false

def count? : Json → Option Nat
  | .num n => n.count?
  | _ => none

def isCount (v : Json) : Bool := (count? v).isSome

def typeName? : Json → Option TypeName
  | .str s => TypeName.ofName? s
  | _ => none

def isTypeList : Json → Bool
  | .str s => (TypeName.ofName? s).isSome
  | .arr types =>
    !types.isEmpty && types.all (fun t => (typeName? t).isSome) && !Json.anySame types
  | _ => false

def isNameList : Json → Bool
  | .arr names => names.all isString && !Json.anySame names
  | _ => false

def isNameListMap : Json → Bool
  | .obj fields => fields.all fun (_, v) => isNameList v
  | _ => false

def keywordRoles : List (String × Role) := [
  ("allOf", .schemas), ("anyOf", .schemas), ("oneOf", .schemas), ("prefixItems", .schemas),
  ("not", .schema), ("if", .schema), ("then", .schema), ("else", .schema), ("contains", .schema),
  ("additionalProperties", .schema), ("propertyNames", .schema),
  ("unevaluatedItems", .schema), ("unevaluatedProperties", .schema),
  ("items", .schemaOrSchemas),
  ("properties", .schemaMap), ("patternProperties", .schemaMap), ("$defs", .schemaMap),
  ("definitions", .schemaMap), ("dependentSchemas", .schemaMap),
  ("type", .plain isTypeList), ("enum", .plain isArray), ("required", .plain isNameList),
  ("dependentRequired", .plain isNameListMap), ("multipleOf", .plain isPositive),
  ("maximum", .plain isNumber), ("minimum", .plain isNumber),
  ("exclusiveMaximum", .plain isNumber), ("exclusiveMinimum", .plain isNumber),
  ("maxLength", .plain isCount), ("minLength", .plain isCount),
  ("maxItems", .plain isCount), ("minItems", .plain isCount),
  ("maxProperties", .plain isCount), ("minProperties", .plain isCount),
  ("maxContains", .plain isCount), ("minContains", .plain isCount),
  ("uniqueItems", .plain isBool), ("pattern", .plain isString), ("$ref", .plain isString),
  ("$schema", .plain isString), ("$id", .plain isString), ("$comment", .plain isString),
  ("$anchor", .plain isString), ("title", .plain isString), ("description", .plain isString),
  ("format", .plain isString), ("deprecated", .plain isBool), ("readOnly", .plain isBool),
  ("writeOnly", .plain isBool), ("examples", .plain isArray)]

def role (keyword : String) : Role := (keywordRoles.lookup keyword).getD (.plain fun _ => true)

mutual
def wellFormed (d : Dialect) : Json → Bool
  | .bool _ => true
  | .obj fields => keywordsFormed d fields
  | _ => false
def allFormed (d : Dialect) : List Json → Bool
  | [] => true
  | s :: ss => wellFormed d s && allFormed d ss
def keywordsFormed (d : Dialect) : List (String × Json) → Bool
  | [] => true
  | (k, v) :: rest => keywordFormed d (role k) v && keywordsFormed d rest
def keywordFormed (d : Dialect) : Role → Json → Bool
  | .plain accepts, v => accepts v
  | .schema, v => wellFormed d v
  | .schemas, .arr items => !items.isEmpty && allFormed d items
  | .schemas, _ => false
  | .schemaOrSchemas, .arr items =>
    decide (d = .older) && !items.isEmpty && allFormed d items
  | .schemaOrSchemas, v => wellFormed d v
  | .schemaMap, .obj fields => mapFormed d fields
  | .schemaMap, _ => false
def mapFormed (d : Dialect) : List (String × Json) → Bool
  | [] => true
  | (_, s) :: rest => wellFormed d s && mapFormed d rest
end

/-! ### References and patterns -/

/-- The keywords that count: in older schemas a reference stands alone. -/
def activeFields (d : Dialect) (fields : List (String × Json)) : List (String × Json) :=
  match d, Assoc.find? "$ref" fields with
  | .older, some r => [("$ref", r)]
  | _, _ => fields

/-- Keywords that hold definitions for references only. -/
def isTable (keyword : String) : Bool := keyword = "definitions" || keyword = "$defs"

/-- The texts under a keyword that stand in a schema outside of its tables. -/
def textOf (wanted : String) (key : String) : Json → List String
  | .str s => if key = wanted then [s] else []
  | _ => []

mutual
/-- The texts of a keyword in a schema and in all schemas inside it. -/
def textsUnder (wanted : String) : Json → List String
  | .obj fields => textsUnderFields wanted fields
  | _ => []
def textsUnderAll (wanted : String) : List Json → List String
  | [] => []
  | s :: ss => textsUnder wanted s ++ textsUnderAll wanted ss
def textsUnderFields (wanted : String) : List (String × Json) → List String
  | [] => []
  | (k, v) :: rest =>
    (if isTable k then [] else textOf wanted k v ++ textsUnderRole wanted (role k) v) ++
      textsUnderFields wanted rest
def textsUnderRole (wanted : String) : Role → Json → List String
  | .plain _, _ => []
  | .schemaMap, .obj fields => textsUnderMap wanted fields
  | .schemaMap, _ => []
  | _, .arr items => textsUnderAll wanted items
  | _, v => textsUnder wanted v
def textsUnderMap (wanted : String) : List (String × Json) → List String
  | [] => []
  | (_, s) :: rest => textsUnder wanted s ++ textsUnderMap wanted rest
end

def isSchema : Json → Bool
  | .bool _ | .obj _ => true
  | _ => false

def patternsUsable (schema : Json) : Bool :=
  (textsUnder "pattern" schema).all fun p => (Regex.ofPattern? p).isSome

/-- Whether all that is reached by references can be used. -/
def reachedUsable (root : Json) : (fuel : Nat) → (pending seen : List String) → Bool
  | 0, _, _ => true
  | _ + 1, [], _ => true
  | fuel + 1, r :: pending, seen =>
    if seen.contains r then reachedUsable root fuel pending seen
    else match target? root r with
      | none => false
      | some s => isSchema s && patternsUsable s &&
          reachedUsable root fuel (textsUnder "$ref" s ++ pending) (r :: seen)

/-- Whether a schema can be used at all. -/
def usable (d : Dialect) (root : Json) : Bool :=
  wellFormed d root && patternsUsable root &&
    reachedUsable root ((root.size + 1) * (root.size + 1)) (textsUnder "$ref" root) []

end Schema
end PromptWeave
