import PromptWeave.Text.Blank

/-! The families of language-model services. -/
namespace PromptWeave

inductive Provider
  | openai
  | anthropic
  | gemini
deriving DecidableEq, Repr

namespace Provider

def name : Provider → String
  | .openai => "openai"
  | .anthropic => "anthropic"
  | .gemini => "gemini"

def names : List (String × Provider) :=
  [("openai", .openai), ("anthropic", .anthropic), ("gemini", .gemini)]

/-- Case does not count, and Gemini also goes by the name of its maker. -/
def ofName? (s : String) : Option Provider :=
  match asciiLower s with
  | "openai" => some .openai
  | "anthropic" => some .anthropic
  | "gemini" | "google" => some .gemini
  | _ => none

@[simp] theorem ofName?_name (p : Provider) : ofName? p.name = some p := by
  cases p <;> decide

end Provider
end PromptWeave
