import PromptWeave.Chat
import PromptWeave.NamePattern.Basic
import PromptWeave.Unicode.Case

/-! Which provider serves a model, and which role its persona takes.
A name is looked up without what stands before its last slash, and case does not count. Single
names come before patterns, and patterns count in the order in which they were registered. -/
namespace PromptWeave

structure ModelConfig where
  provider : Provider
  personaRole : Role
deriving DecidableEq, Repr

def ModelConfig.standard : ModelConfig := ⟨.openai, .system⟩

structure ModelRegistry where
  exact : Dict ModelConfig
  patterns : List (NamePattern × ModelConfig)
  fallback : ModelConfig

namespace ModelRegistry

/-- The name by which a model is looked up. -/
def bareName (model : String) : String :=
  lowercase (String.ofList (model.toList.reverse.takeWhile (· != '/')).reverse)

def empty : ModelRegistry := ⟨.empty, [], .standard⟩

def builtinPatterns : List (String × ModelConfig) := [
  ("^o\\d", ⟨.openai, .developer⟩),
  ("^(gpt-|chatgpt)", ⟨.openai, .system⟩),
  ("^claude", ⟨.anthropic, .system⟩),
  ("^gemini", ⟨.gemini, .system⟩)]

/-- The registry of the model families that are known. -/
def builtin : ModelRegistry :=
  { empty with patterns := builtinPatterns.filterMap fun (p, config) =>
      (Regex.compile? p).map fun r => (.regex r, config) }

def withDefault (r : ModelRegistry) (config : ModelConfig) : ModelRegistry :=
  { r with fallback := config }

/-- Of several entries for one name the last counts. -/
def registerExact (r : ModelRegistry) (name : String) (config : ModelConfig) : ModelRegistry :=
  { r with exact := r.exact.insert (bareName name) config }

/-- Registers a pattern behind those that are there. -/
def registerPattern (r : ModelRegistry) (pattern : String) (config : ModelConfig) :
    Except Error ModelRegistry := do
  return { r with patterns := r.patterns ++ [(← NamePattern.compile pattern, config)] }

def lookup (r : ModelRegistry) (model : String) : ModelConfig :=
  match r.exact.find? (bareName model) with
  | some config => config
  | none => match r.patterns.find? fun (p, _) => p.isMatch (bareName model) with
    | some (_, config) => config
    | none => r.fallback

end ModelRegistry
end PromptWeave
