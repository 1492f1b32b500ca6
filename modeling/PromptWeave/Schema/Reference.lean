import PromptWeave.Json.Basic
import PromptWeave.Parameters
import PromptWeave.Text.Hex

/-! References from one part of a schema to another.
A reference is a hash sign and the path from the root to its target. -/
namespace PromptWeave
namespace Schema

/-- ASCII characters written as a percent sign and two hexadecimal digits. -/
def percentDecoded : List Char → List Char
  | '%' :: a :: b :: rest => match Text.hexValue? a, Text.hexValue? b with
    | some m, some n =>
      if m < 8 then Char.ofNat (m * 16 + n) :: percentDecoded rest
      else '%' :: a :: b :: percentDecoded rest
    | _, _ => '%' :: percentDecoded (a :: b :: rest)
  | c :: rest => c :: percentDecoded rest
  | [] => []

def unescaped : List Char → List Char
  | '~' :: '1' :: rest => '/' :: unescaped rest
  | '~' :: '0' :: rest => '~' :: unescaped rest
  | c :: rest => c :: unescaped rest
  | [] => []

/-- The value that a path of steps leads to. -/
def follow : List (List Char) → Json → Option Json
  | [], v => some v
  | step :: steps, .obj fields => do
    follow steps (← Assoc.find? (String.ofList (unescaped step)) fields)
  | step :: steps, .arr items => do
    follow steps (← items[← Parameters.index? step]?)
  | _ :: _, _ => none

/-- The target of a reference into `root`. -/
def target? (root : Json) (reference : String) : Option Json :=
  match reference.toList with
  | ['#'] | [] => some root
  | '#' :: '/' :: path => follow (Text.splitAt '/' (percentDecoded path)) root
  | _ => none

end Schema
end PromptWeave
