import PromptWeave.Schema.WellFormed

/-! What a value has to be to fit a schema.
Keywords are looked at in the order of their names; keywords for another type than that of the
value say nothing. Following references without end says nothing either. -/
namespace PromptWeave
namespace Schema

/-- Whether a value is of a type. A number without fraction is an integer however it is written. -/
def isOfType (v : Json) (t : TypeName) : Bool :=
  match v, t with
  | .null, .null | .bool _, .boolean | .num _, .number | .str _, .string | .arr _, .array
  | .obj _, .object => true
  | .num n, .integer => n.isWhole
  | _, _ => false

/-- The types that a schema asks for, in the order in which they are listed. -/
def typesOf (arg : Json) : List TypeName :=
  match arg with
  | .arr types => TypeName.all.filter fun t => types.any fun v => typeName? v = some t
  | v => (typeName? v).toList

/-- How schemas inside a schema are checked: the path, the schema and the value. -/
abbrev Check := List String → Json → Json → List Violation

def fieldsOf : Json → List (String × Json)
  | .obj fields => fields
  | _ => []

def itemsOf : Json → List Json
  | .arr items => items
  | _ => []

def matchesPattern (pattern : String) (s : String) : Bool :=
  ((Regex.ofPattern? pattern).map (·.isMatch s)).getD true

/-- Whether a property has a schema of its own beside `additionalProperties`. -/
def isNamed (siblings : List (String × Json)) (name : String) : Bool :=
  (((Assoc.find? "properties" siblings).getD .null).field? name).isSome ||
    (fieldsOf ((Assoc.find? "patternProperties" siblings).getD .null)).any fun (p, _) =>
      matchesPattern p name

/-- Whether the keyword for further properties checks the named ones as well. -/
def coversProperties (siblings : List (String × Json)) : Bool :=
  match Assoc.find? "additionalProperties" siblings with
  | none | some (.bool true) => false
  | some _ => true

/-- The properties of a value in their order, the named ones by their schemas. -/
def checkNamed (check : Check) (path : List String) (named : Json) (value : Json) :
    List Violation :=
  (fieldsOf value).flatMap fun (name, v) =>
    match named.field? name with
    | some s => check (path ++ [name]) s v
    | none => []

def checkPatterns (check : Check) (path : List String) (patterns : Json) (value : Json) :
    List Violation :=
  (fieldsOf patterns).flatMap fun (p, s) => (fieldsOf value).flatMap fun (name, v) =>
    if matchesPattern p name then check (path ++ [name]) s v else []

def checkFurther (check : Check) (path : List String) (siblings : List (String × Json))
    (arg value : Json) : List Violation :=
  let further := (fieldsOf value).filter fun (name, _) => !isNamed siblings name
  let named := checkNamed check path ((Assoc.find? "properties" siblings).getD .null) value
  match arg with
  | .bool true => []
  | .bool false => match further with
    | [] => named
    | (name, v) :: rest =>
      if (Assoc.find? "properties" siblings).isNone &&
          (Assoc.find? "patternProperties" siblings).isNone then
        named ++ [⟨path, v, .forbidden⟩]
      else named ++ [⟨path, value, .unexpected (name :: rest.map (·.1))⟩]
  | schema => (fieldsOf value).flatMap fun (name, v) =>
    if isNamed siblings name then
      match ((Assoc.find? "properties" siblings).getD .null).field? name with
      | some s => check (path ++ [name]) s v
      | none => []
    else check (path ++ [name]) schema v

/-- Elements from a position on, each by the same schema. -/
def checkItems (check : Check) (path : List String) (schema : Json) : Nat → List Json →
    List Violation
  | _, [] => []
  | i, v :: vs => check (path ++ [toString i]) schema v ++ checkItems check path schema (i + 1) vs

/-- Elements by schemas of their own. -/
def checkEach (check : Check) (path : List String) : Nat → List Json → List Json → List Violation
  | i, s :: ss, v :: vs => check (path ++ [toString i]) s v ++ checkEach check path (i + 1) ss vs
  | _, _, _ => []

/-- A complaint unless the condition holds. -/
def require (ok : Bool) (path : List String) (value : Json) (c : Complaint) : List Violation :=
  if ok then [] else [⟨path, value, c⟩]

def checkNumber (path : List String) (value limit : Json) (ok : Json.Number → Json.Number → Bool)
    (c : Complaint) : List Violation :=
  match value, limit with
  | .num a, .num b => require (ok a b) path value c
  | _, _ => []

def checkCount (path : List String) (value limit : Json) (size? : Json → Option Nat)
    (ok : Nat → Nat → Bool) (c : Nat → Complaint) : List Violation :=
  match size? value, count? limit with
  | some n, some m => require (ok n m) path value (c m)
  | _, _ => []

def lengthOf? : Json → Option Nat
  | .str s => some s.length
  | _ => none

def itemCount? : Json → Option Nat
  | .arr items => some items.length
  | _ => none

def propertyCount? : Json → Option Nat
  | .obj fields => some fields.length
  | _ => none

def missingOf (path : List String) (names value : Json) : List Violation :=
  (itemsOf names).filterMap fun n => do
    let name ← n.str?
    if (value.field? name).isSome then none else some ⟨path, value, .missing name⟩

def isObject : Json → Bool
  | .obj _ => true
  | _ => false

/-- What the keyword `k` with its argument says of a value. -/
def checkKeyword (check : Check) (root : Json) (path : List String) (siblings : List (String × Json))
    (value : Json) (k : String) (arg : Json) : List Violation :=
  let fits (s : Json) : Bool := (check path s value).isEmpty
  match k with
  | "$ref" => match arg.str?.bind (target? root) with
    | some s => check path s value
    | none => []
  | "type" => require ((typesOf arg).any (isOfType value)) path value (.notOfType (typesOf arg))
  | "enum" => require ((itemsOf arg).any (Json.same value)) path value (.notOneOf (itemsOf arg))
  | "const" => require (Json.same arg value) path value (.notEqual arg)
  | "allOf" => (itemsOf arg).flatMap fun s => check path s value
  | "anyOf" => require ((itemsOf arg).any fits) path value (.noneOf "anyOf")
  | "oneOf" => match (itemsOf arg).filter fits with
    | [] => [⟨path, value, .noneOf "oneOf"⟩]
    | [_] => []
    | _ => [⟨path, value, .severalOf⟩]
  | "not" => require (!fits arg) path value (.excluded arg)
  | "if" => match Assoc.find? (if fits arg then "then" else "else") siblings with
    | some s => check path s value
    | none => []
  | "properties" => if coversProperties siblings then [] else checkNamed check path arg value
  | "patternProperties" => checkPatterns check path arg value
  | "additionalProperties" => checkFurther check path siblings arg value
  | "propertyNames" => (fieldsOf value).flatMap fun (name, _) => check path arg (.str name)
  | "required" => if isObject value then missingOf path arg value else []
  | "dependentRequired" => (fieldsOf arg).flatMap fun (name, names) =>
    if (value.field? name).isSome then missingOf path names value else []
  | "prefixItems" => checkEach check path 0 (itemsOf arg) (itemsOf value)
  | "items" => match arg with
    | .arr schemas => checkEach check path 0 schemas (itemsOf value)
    | schema =>
      let skipped := (itemsOf ((Assoc.find? "prefixItems" siblings).getD .null)).length
      checkItems check path schema skipped ((itemsOf value).drop skipped)
  | "contains" => match value with
    | .arr items =>
      require (items.any fun v => (check path arg v).isEmpty) path value .containsNone
    | _ => []
  | "minimum" => checkNumber path value arg (fun a b => !Json.Number.lt a b) (.below arg)
  | "maximum" => checkNumber path value arg (fun a b => !Json.Number.lt b a) (.above arg)
  | "exclusiveMinimum" => checkNumber path value arg (fun a b => Json.Number.lt b a) (.atOrBelow arg)
  | "exclusiveMaximum" => checkNumber path value arg (fun a b => Json.Number.lt a b) (.atOrAbove arg)
  | "multipleOf" => checkNumber path value arg Json.Number.isMultipleOf (.notMultiple arg)
  | "minLength" => checkCount path value arg lengthOf? (fun n m => decide (m ≤ n)) .shorter
  | "maxLength" => checkCount path value arg lengthOf? (fun n m => decide (n ≤ m)) .longer
  | "minItems" => checkCount path value arg itemCount? (fun n m => decide (m ≤ n)) (.fewer .items)
  | "maxItems" => checkCount path value arg itemCount? (fun n m => decide (n ≤ m)) (.more .items)
  | "minProperties" =>
    checkCount path value arg propertyCount? (fun n m => decide (m ≤ n)) (.fewer .properties)
  | "maxProperties" =>
    checkCount path value arg propertyCount? (fun n m => decide (n ≤ m)) (.more .properties)
  | "uniqueItems" => require (arg != .bool true || !Json.anySame (itemsOf value)) path value .notUnique
  | "pattern" => match value, arg with
    | .str s, .str p => require (matchesPattern p s) path value (.unmatched p)
    | _, _ => []
  | _ => []

/-- What is wrong with a value by a schema, references being followed `fuel` levels deep. -/
def violationsWithin (d : Dialect) (root : Json) : (fuel : Nat) → Check
  | 0, _, _, _ => []
  | _ + 1, path, .bool b, value => require b path value .forbidden
  | fuel + 1, path, .obj fields, value =>
    (activeFields d fields).flatMap fun (k, arg) =>
      checkKeyword (violationsWithin d root fuel) root path (activeFields d fields) value k arg
  | _ + 1, _, _, _ => []

/-- Steps through a schema and its references are fewer than this, unless they go in circles. -/
def checkDepth (root value : Json) : Nat := (root.size + 1) * (value.size + 1)

/-- The validator for the keywords above. Other keywords say nothing to it. -/
def standard : Validator := fun schema => do
  let d ← dialect? schema
  guard (usable d schema)
  return fun value =>
    (violationsWithin d schema (checkDepth schema value) [] schema value).map Violation.finding

end Schema
end PromptWeave
