import PromptWeave.Json.Basic

/-! JSON as it was written.
A raw tree keeps repeated keys and the order of keys. A part that has the form of JSON but no
value (half a surrogate pair, a number too large, brackets nested too deeply) is kept as a fault,
which counts only when that part is looked at. -/
namespace PromptWeave
namespace Json

/-- Why a text or a value cannot be read. -/
inductive Fault
  | malformed
  | loneSurrogate
  | outOfRange
  | tooDeep
  | mismatch (expected : String)
  | missing (field : String)
  | repeated (field : String)
  | unknown (name : String)
  | length
deriving DecidableEq, Repr

def Fault.message : Fault → String
  | .malformed => "the text is not JSON"
  | .loneSurrogate => "half a surrogate pair"
  | .outOfRange => "number out of range"
  | .tooDeep => "nested too deeply"
  | .mismatch expected => s!"expected {expected}"
  | .missing field => "missing field '" ++ field ++ "'"
  | .repeated field => "repeated field '" ++ field ++ "'"
  | .unknown name => "unknown name '" ++ name ++ "'"
  | .length => "wrong number of elements"

inductive Raw
  | null
  | bool (b : Bool)
  | num (n : Number)
  | str (s : String)
  | arr (items : List Raw)
  | obj (fields : List (Option String × Raw))
  | faulty (f : Fault)

namespace Raw

instance : Inhabited Raw := ⟨.null⟩

mutual
/-- The value of a raw tree without faults; of repeated keys the last counts. -/
def value : Raw → Except Fault Json
  | .null => .ok .null
  | .bool b => .ok (.bool b)
  | .num n => .ok (.num n)
  | .str s => .ok (.str s)
  | .arr items => do return .arr (← valueItems items)
  | .obj fields => do return .obj (Assoc.ofList (← valueFields fields))
  | .faulty f => .error f
def valueItems : List Raw → Except Fault (List Json)
  | [] => .ok []
  | r :: rs => do
    let v ← value r
    return v :: (← valueItems rs)
def valueFields : List (Option String × Raw) → Except Fault (List (String × Json))
  | [] => .ok []
  | (none, _) :: _ => .error .loneSurrogate
  | (some k, r) :: rest => do
    let v ← value r
    return (k, v) :: (← valueFields rest)
end

mutual
def ofJson : Json → Raw
  | .null => .null
  | .bool b => .bool b
  | .num n => .num n
  | .str s => .str s
  | .arr items => .arr (ofItems items)
  | .obj fields => .obj (ofFields fields)
def ofItems : List Json → List Raw
  | [] => []
  | v :: vs => ofJson v :: ofItems vs
def ofFields : List (String × Json) → List (Option String × Raw)
  | [] => []
  | (k, v) :: rest => (some k, ofJson v) :: ofFields rest
end

mutual
/-- How many brackets enclose the innermost part, plus one. -/
def depth : Raw → Nat
  | .arr items => depthItems items + 1
  | .obj fields => depthFields fields + 1
  | _ => 1
def depthItems : List Raw → Nat
  | [] => 0
  | r :: rs => max (depth r) (depthItems rs)
def depthFields : List (Option String × Raw) → Nat
  | [] => 0
  | (_, r) :: rest => max (depth r) (depthFields rest)
end

mutual
/-- Whether a tree has no part without a value. -/
def sound : Raw → Bool
  | .faulty _ => false
  | .arr items => soundItems items
  | .obj fields => soundFields fields
  | _ => true
def soundItems : List Raw → Bool
  | [] => true
  | r :: rs => sound r && soundItems rs
def soundFields : List (Option String × Raw) → Bool
  | [] => true
  | (k, r) :: rest => k.isSome && sound r && soundFields rest
end

end Raw
end Json
end PromptWeave
