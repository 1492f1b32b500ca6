import PromptWeave.Json.Printer
import PromptWeave.Text.Blank

/-! What is wrong with a value that a schema does not allow, and how it is told. -/
namespace PromptWeave
namespace Schema

/-! ### Validators -/

/-- What a validator finds wrong: where, as a pointer into the value, and what. -/
structure Finding where
  pointer : String
  text : String
deriving DecidableEq, Repr

def Finding.message (f : Finding) : String := f.pointer ++ ": " ++ f.text

/-- A validator makes a check of values out of a schema, if it can use the schema. -/
abbrev Validator := Json → Option (Json → List Finding)

/-! ### Complaints -/

/-- The types that a schema can ask for, in the order in which they are listed. -/
inductive TypeName
  | array
  | boolean
  | integer
  | null
  | number
  | object
  | string
deriving DecidableEq, Repr

namespace TypeName

def all : List TypeName := [.array, .boolean, .integer, .null, .number, .object, .string]

def name : TypeName → String
  | .array => "array"
  | .boolean => "boolean"
  | .integer => "integer"
  | .null => "null"
  | .number => "number"
  | .object => "object"
  | .string => "string"

def ofName? (s : String) : Option TypeName := all.find? fun t => t.name = s

end TypeName

/-- What is counted. -/
inductive Measure
  | items
  | properties
deriving DecidableEq, Repr

def Measure.word : Measure → Nat → String
  | .items, n => if n = 1 then "item" else "items"
  | .properties, n => if n = 1 then "property" else "properties"

inductive Complaint
  | forbidden
  | notOfType (types : List TypeName)
  | missing (property : String)
  | unexpected (properties : List String)
  | notOneOf (options : List Json)
  | notEqual (expected : Json)
  | below (limit : Json)
  | above (limit : Json)
  | atOrBelow (limit : Json)
  | atOrAbove (limit : Json)
  | shorter (limit : Nat)
  | longer (limit : Nat)
  | fewer (m : Measure) (limit : Nat)
  | more (m : Measure) (limit : Nat)
  | notMultiple (of : Json)
  | notUnique
  | unmatched (pattern : String)
  | noneOf (keyword : String)
  | severalOf
  | excluded (schema : Json)
  | containsNone
deriving DecidableEq

/-- A complaint about the value at a path. -/
structure Violation where
  path : List String
  value : Json
  complaint : Complaint
deriving DecidableEq

def quoted (s : String) : String := String.ofList (Json.quote s)

/-- A list of things the last of which is set off by `or`. -/
def orList : List String → String
  | [] => ""
  | [a] => a
  | [a, b] => a ++ " or " ++ b
  | a :: rest => a ++ ", " ++ orList rest

/-- Up to three options are all shown, of more the first two. -/
def optionList (options : List Json) : String :=
  let texts := options.map Json.compact
  if texts.length ≤ 3 then orList texts
  else
    let others := toString (texts.length - 2)
    joinWith ", " (texts.take 2) ++ " or " ++ others ++ " other candidates"

def unexpectedList (names : List String) : String :=
  joinWith ", " (names.map fun n => "'" ++ n ++ "'") ++
    if names.length = 1 then " was unexpected" else " were unexpected"

def characters (n : Nat) : String :=
  toString n ++ if n = 1 then " character" else " characters"

def Complaint.message (value : Json) : Complaint → String
  | .forbidden => "False schema does not allow " ++ value.compact
  | .notOfType [t] => value.compact ++ " is not of type " ++ quoted t.name
  | .notOfType types =>
    value.compact ++ " is not of types " ++ joinWith ", " (types.map fun t => quoted t.name)
  | .missing property => quoted property ++ " is a required property"
  | .unexpected names => "Additional properties are not allowed (" ++ unexpectedList names ++ ")"
  | .notOneOf options => value.compact ++ " is not one of " ++ optionList options
  | .notEqual expected => expected.compact ++ " was expected"
  | .below limit => value.compact ++ " is less than the minimum of " ++ limit.compact
  | .above limit => value.compact ++ " is greater than the maximum of " ++ limit.compact
  | .atOrBelow limit =>
    value.compact ++ " is less than or equal to the minimum of " ++ limit.compact
  | .atOrAbove limit =>
    value.compact ++ " is greater than or equal to the maximum of " ++ limit.compact
  | .shorter limit => value.compact ++ " is shorter than " ++ characters limit
  | .longer limit => value.compact ++ " is longer than " ++ characters limit
  | .fewer m limit =>
    value.compact ++ " has less than " ++ toString limit ++ " " ++ m.word limit
  | .more m limit =>
    value.compact ++ " has more than " ++ toString limit ++ " " ++ m.word limit
  | .notMultiple of => value.compact ++ " is not a multiple of " ++ of.compact
  | .notUnique => value.compact ++ " has non-unique elements"
  | .unmatched pattern => value.compact ++ " does not match \"" ++ pattern ++ "\""
  | .noneOf keyword =>
    value.compact ++ " is not valid under any of the schemas listed in the '" ++ keyword ++
      "' keyword"
  | .severalOf =>
    value.compact ++ " is valid under more than one of the schemas listed in the 'oneOf' keyword"
  | .excluded schema => schema.compact ++ " is not allowed for " ++ value.compact
  | .containsNone => "None of " ++ value.compact ++ " are valid under the given schema"

/-- A step of a path; tilde and slash are escaped. -/
def pointerStep (s : String) : List Char :=
  '/' :: s.toList.flatMap fun c =>
    if c = '~' then ['~', '0'] else if c = '/' then ['~', '1'] else [c]

def pointer (path : List String) : String := String.ofList (path.flatMap pointerStep)

def Violation.finding (v : Violation) : Finding := ⟨pointer v.path, v.complaint.message v.value⟩

end Schema
end PromptWeave
