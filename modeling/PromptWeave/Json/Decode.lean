import PromptWeave.Json.Raw

/-! Reading typed values from raw JSON.
A record is an object with known fields, unknown ones being ignored, or the array of its fields in
their order. An optional field may be absent or `null`; in the array form only fields with a
default may be left out, and only at the end. A named constant is its name or an object with the
name as its one key and `null` as the value. -/
namespace PromptWeave
namespace Json

abbrev Decoder (α : Type) := Raw → Except Fault α

namespace Decode

def string : Decoder String
  | .str s => .ok s
  | .faulty f => .error f
  | _ => .error (.mismatch "a string")

def bool : Decoder Bool
  | .bool b => .ok b
  | .faulty f => .error f
  | _ => .error (.mismatch "a boolean")

/-- A number in double format. -/
def real : Decoder BinaryFloat
  | .num (.float x) => .ok x
  | .num (.int i) => match BinaryFloat.ofInt? .double i with
    | some x => .ok x
    | none => .error .outOfRange
  | .faulty f => .error f
  | _ => .error (.mismatch "a number")

/-- A whole number below `2 ^ 32`, written without point and exponent. -/
def count : Decoder Nat
  | .num (.int i) => if 0 ≤ i && i.toNat < Nat.pow 2 32 then .ok i.toNat else .error .outOfRange
  | .faulty f => .error f
  | _ => .error (.mismatch "a whole number")

def value : Decoder Json := Raw.value

def option {α : Type} (d : Decoder α) : Decoder (Option α)
  | .null => .ok none
  | r => do return some (← d r)

def each {α : Type} (d : Decoder α) : List Raw → Except Fault (List α)
  | [] => .ok []
  | r :: rs => do
    let a ← d r
    return a :: (← each d rs)

def list {α : Type} (d : Decoder α) : Decoder (List α)
  | .arr items => each d items
  | .faulty f => .error f
  | _ => .error (.mismatch "an array")

/-- An object as a dictionary of values. -/
def dict : Decoder (Dict Json)
  | .obj fields => do return Dict.ofList (← Raw.valueFields fields)
  | .faulty f => .error f
  | _ => .error (.mismatch "an object")

def named {α : Type} (names : List (String × α)) (name : String) : Except Fault α :=
  match Assoc.find? name names with
  | some a => .ok a
  | none => .error (.unknown name)

def constant {α : Type} (names : List (String × α)) : Decoder α
  | .str s => named names s
  | .obj [(some k, .null)] => named names k
  | .faulty f => .error f
  | _ => .error (.mismatch "a name")

end Decode

/-- The fields of a record that are present. -/
structure Record where
  positional : Bool
  present : List (String × Raw)

namespace Record

/-- The known fields of an object, each given at most once; `spelling` gives the field a key names. -/
def collect (spelling : String → String) (names : List String) :
    List (Option String × Raw) → Except Fault (List (String × Raw))
  | [] => .ok []
  | (none, _) :: _ => .error .loneSurrogate
  | (some k, r) :: rest => do
    let more ← collect spelling names rest
    let name := spelling k
    if names.contains name then
      if more.any (·.1 == name) then throw (.repeated name)
      return (name, r) :: more
    return more

/-- Objects only. -/
def ofObject (spelling : String → String) (names : List String) : Decoder Record
  | .obj fields => do return ⟨false, ← collect spelling names fields⟩
  | .faulty f => .error f
  | _ => .error (.mismatch "an object")

def ofRaw (spelling : String → String) (names : List String) : Decoder Record
  | .arr items =>
    if names.length < items.length then .error .length
    else .ok ⟨true, names.zip items⟩
  | r => ofObject spelling names r

def find? (name : String) (fields : Record) : Option Raw := Assoc.find? name fields.present

def required {α : Type} (fields : Record) (name : String) (d : Decoder α) : Except Fault α :=
  match fields.find? name with
  | some r => d r
  | none => .error (.missing name)

/-- Absent and `null` both give none, but the array form has to spell it out. -/
def optional {α : Type} (fields : Record) (name : String) (d : Decoder α) :
    Except Fault (Option α) :=
  match fields.find? name with
  | some r => Decode.option d r
  | none => if fields.positional then .error (.missing name) else .ok none

/-- An absent field takes its default. -/
def withDefault {α : Type} (fields : Record) (name : String) (default : α) (d : Decoder α) :
    Except Fault α :=
  match fields.find? name with
  | some r => d r
  | none => .ok default

/-- Absent and `null` both give none, in both forms. -/
def optionalOrNone {α : Type} (fields : Record) (name : String) (d : Decoder α) :
    Except Fault (Option α) :=
  fields.withDefault name none (Decode.option d)

end Record

/-- A record without other spellings of its fields. -/
def Decode.record (names : List String) : Decoder Record := Record.ofRaw id names

end Json
end PromptWeave
