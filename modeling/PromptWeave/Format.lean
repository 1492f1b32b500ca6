import PromptWeave.Provider.Request
import PromptWeave.Registry
import PromptWeave.Render

/-! Prompts as chat requests.
The persona is a message of its own, in the role that the model takes it in. All other areas make
up one message of the user, which is there even when it is empty. -/
namespace PromptWeave

/-- How prompts are written, and for whom. -/
structure Formatter where
  options : FormatOptions
  registry : ModelRegistry

namespace Formatter

def standard : Formatter := ⟨.standard, .builtin⟩

def personaMessage (f : Formatter) (model : String) (p : Prompt) : Option Message :=
  (renderArea f.options p .persona).map (Message.ofText (f.registry.lookup model).personaRole)

def userText (f : Formatter) (p : Prompt) : String :=
  joinWith f.options.separator (Area.userOrder.filterMap (renderArea f.options p))

/-- The request that belongs to no provider. -/
def format (f : Formatter) (model : String) (p : Prompt) : ChatRequest where
  model := some model
  messages := (f.personaMessage model p).toList ++ [Message.ofText .user (f.userText p)]
  maxTokens := none
  temperature := none
  responseFormat := p.structuredOutput.map ResponseFormat.ofOutput

/-- The request in the form of the provider that serves the model. -/
def formatFor (f : Formatter) (model : String) (p : Prompt) : Except Error Provider.Request :=
  (f.registry.lookup model).provider.shape (f.format model p)

end Formatter
end PromptWeave
