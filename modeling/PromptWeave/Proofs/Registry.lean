import PromptWeave.Proofs.Assoc
import PromptWeave.Proofs.Unicode.Lowercase
import PromptWeave.Registry

/-! What a registry answers after any calls.
Of the single names the last registration counts, of the patterns the first that fits, of the
fallbacks the last. Names are brought to one form both when they are registered and when they are
looked up, so neither what stands before the last slash nor the case of ASCII counts. Nothing here
depends on how a pattern is matched. -/
namespace PromptWeave

inductive Registration
  | fallback (config : ModelConfig)
  | exact (name : String) (config : ModelConfig)
  | pattern (text : String) (config : ModelConfig)

namespace Registration

def fallback? : Registration → Option ModelConfig
  | fallback config => some config
  | exact _ _ | pattern _ _ => none

/-- What a call registers for a bare name. -/
def exactFor? (bare : String) : Registration → Option ModelConfig
  | exact name config => if ModelRegistry.bareName name = bare then some config else none
  | fallback _ | pattern _ _ => none

def accepted? : Registration → Option (NamePattern × ModelConfig)
  | pattern text config => (NamePattern.compile text).toOption.map fun p => (p, config)
  | fallback _ | exact _ _ => none

end Registration

namespace ModelRegistry

/-- The registry behind a call. One that fails leaves the registry as it is. -/
def registered (r : ModelRegistry) : Registration → ModelRegistry
  | .fallback config => r.withDefault config
  | .exact name config => r.registerExact name config
  | .pattern text config => match r.registerPattern text config with
    | .ok changed => changed
    | .error _ => r

def after (r : ModelRegistry) (calls : List Registration) : ModelRegistry :=
  calls.foldl registered r

@[simp] theorem after_nil (r : ModelRegistry) : r.after [] = r := rfl

@[simp] theorem after_cons (r : ModelRegistry) (call : Registration) (calls : List Registration) :
    r.after (call :: calls) = (r.registered call).after calls := rfl

/-- What a registry answers where `fits` says which names a pattern fits. -/
def lookupBy (fits : NamePattern → String → Bool) (r : ModelRegistry) (model : String) :
    ModelConfig :=
  match r.exact.find? (bareName model) with
  | some config => config
  | none => match r.patterns.find? fun (p, _) => fits p (bareName model) with
    | some (_, config) => config
    | none => r.fallback

/-- A single name or a pattern answers for the model. -/
def Decides (fits : NamePattern → String → Bool) (r : ModelRegistry) (model : String) : Prop :=
  (r.exact.find? (bareName model)).isSome = true ∨
    r.patterns.any (fun p => fits p.1 (bareName model)) = true

section
variable {fits : NamePattern → String → Bool} {r : ModelRegistry} {model : String}

theorem Decides.find?_append (h : r.Decides fits model)
    (hexact : r.exact.find? (bareName model) = none) (more : List (NamePattern × ModelConfig)) :
    (r.patterns ++ more).find? (fun p => fits p.1 (bareName model)) =
      r.patterns.find? fun p => fits p.1 (bareName model) := by
  have hany := h.resolve_left (by rw [hexact]; decide)
  obtain ⟨p, hp, hfits⟩ := List.any_eq_true.mp hany
  have hsome : (r.patterns.find? fun p => fits p.1 (bareName model)).isSome = true :=
    List.find?_isSome.mpr ⟨p, hp, hfits⟩
  rw [List.find?_append, Option.or_of_isSome hsome]

end

/-! ### Names -/

/-- What a registry that began as `start` answers behind `calls`, where `fits` says which names a
pattern fits. -/
structure Answers (fits : NamePattern → String → Bool) (start : ModelRegistry)
    (calls : List Registration) : Prop where
  /-- The last registration of the single name answers, else the first pattern that fits, else the
  last fallback. -/
  answer (model : String) : (start.after calls).lookupBy fits model =
    match calls.reverse.findSome? (·.exactFor? (bareName model)) with
    | some config => config
    | none =>
      match (start.patterns ++ calls.filterMap Registration.accepted?).find?
          fun p => fits p.1 (bareName model) with
      | some (_, config) => config
      | none => (calls.reverse.findSome? Registration.fallback?).getD .standard
  /-- A call that fails could as well not have been made. -/
  failed (before behind : List Registration) (text : String) (config : ModelConfig) (e : Error) :
    calls = before ++ .pattern text config :: behind →
    (start.after before).registerPattern text config = .error e →
    start.after calls = start.after (before ++ behind)
  /-- Neither could a pattern, for a name that was decided before. -/
  decided (before behind : List Registration) (text : String) (config : ModelConfig)
    (model : String) :
    calls = before ++ .pattern text config :: behind →
    (start.after before).Decides fits model →
    (start.after calls).lookupBy fits model = (start.after (before ++ behind)).lookupBy fits model
  organisation (organisation model : String) :
    (start.after calls).lookupBy fits (organisation ++ "/" ++ model) =
      (start.after calls).lookupBy fits model
  anyCase (model model' : String) : asciiLower model = asciiLower model' →
    (start.after calls).lookupBy fits model = (start.after calls).lookupBy fits model'
  /-- The registry's own answers are those of its own way to match. -/
  own (model : String) :
    (start.after calls).lookup model = (start.after calls).lookupBy NamePattern.isMatch model

end ModelRegistry
end PromptWeave
