import PromptWeave.Proofs.Schema.Resolving
import PromptWeave.Schema.Validation

/-! What a schema says.
A schema is the conjunction of what its keywords say, a reference being read as the schema it names.
Keywords that are not treated here say nothing. -/
namespace PromptWeave
namespace Schema

/-- How a keyword speaks of a value. -/
inductive Clause
  | reference
  | properties
  | items
  | allOf
  | anyOf
  | oneOf
  | not
  | plain
deriving DecidableEq, Repr

def clauseOf (keyword : String) : Clause :=
  if keyword = "$ref" then .reference
  else if keyword = "properties" then .properties
  else if keyword = "items" then .items
  else if keyword = "allOf" then .allOf
  else if keyword = "anyOf" then .anyOf
  else if keyword = "oneOf" then .oneOf
  else if keyword = "not" then .not
  else .plain

def plainNames : List String :=
  ["type", "enum", "const", "required", "dependentRequired", "minimum", "maximum",
    "exclusiveMinimum", "exclusiveMaximum", "multipleOf", "minLength", "maxLength", "pattern",
    "minItems", "maxItems", "uniqueItems", "minProperties", "maxProperties"]

def plainlyHolds (keyword : String) (arg value : Json) : Bool :=
  !plainNames.contains keyword ||
    (checkKeyword (fun _ _ _ => []) .null [] [] value keyword arg).isEmpty

mutual
/-- Whether a value is as a schema says; `follow` speaks for the references. -/
def meets (follow : Json → Json → Bool) : Json → Json → Bool
  | .bool b, _ => b
  | .obj fields, v => meetsFields follow fields v
  | _, _ => true
def meetsFields (follow : Json → Json → Bool) : List (String × Json) → Json → Bool
  | [], _ => true
  | (k, arg) :: rest, v => meetsClause follow (clauseOf k) k arg v && meetsFields follow rest v
def meetsClause (follow : Json → Json → Bool) : Clause → String → Json → Json → Bool
  | .reference, _, arg, v => follow arg v
  | .plain, k, arg, v => plainlyHolds k arg v
  | .not, _, arg, v => !meets follow arg v
  | .properties, _, .obj props, v => meetsNamed follow props v
  | .items, _, .arr schemas, v => meetsEach follow schemas (itemsOf v)
  | .items, _, arg, v => (itemsOf v).all fun x => meets follow arg x
  | .allOf, _, .arr schemas, v => (verdicts follow schemas v).all id
  | .anyOf, _, .arr schemas, v => (verdicts follow schemas v).any id
  | .oneOf, _, .arr schemas, v => (verdicts follow schemas v).count true == 1
  | _, _, _, _ => true
def meetsNamed (follow : Json → Json → Bool) : List (String × Json) → Json → Bool
  | [], _ => true
  | (name, s) :: rest, v =>
    (match v.field? name with
      | some x => meets follow s x
      | none => true) && meetsNamed follow rest v
def meetsEach (follow : Json → Json → Bool) : List Json → List Json → Bool
  | s :: rest, v :: vs => meets follow s v && meetsEach follow rest vs
  | _, _ => true
def verdicts (follow : Json → Json → Bool) : List Json → Json → List Bool
  | [], _ => []
  | s :: rest, v => meets follow s v :: verdicts follow rest v
end

def silent : Json → Json → Bool := fun _ _ => true

variable {follow follow' : Json → Json → Bool}

end Schema
end PromptWeave
