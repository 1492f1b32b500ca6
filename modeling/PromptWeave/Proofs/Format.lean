import PromptWeave.Format
import PromptWeave.Proofs.Provider.Conversation
import PromptWeave.Proofs.Render.Presence

/-! Prompts in the form of each provider.
Whoever serves the model, the persona is all that sets it up and the other areas are all that is
said to it. -/
namespace PromptWeave

namespace Provider.Request

/-- The texts that set up the model, each from a place of its own. -/
def settings : Request → List String
  | .openai r => (r.messages.filter (·.role.isSystemLike)).map Message.content
  | .anthropic r => r.system.toList
  | .gemini r => (r.system.map Content.text).toList

def turns : Request → List Content
  | .openai r => (r.messages.filter fun m => !m.role.isSystemLike).map fun m =>
      ⟨some m.role.name, m.content⟩
  | .anthropic r => r.messages.map fun (role, text) => ⟨some role.name, text⟩
  | .gemini r => r.history ++ [r.message]

variable {provider : Provider} {r : ChatRequest} {q : Request}

/-- With one message at most to set up the model, all providers take its text as it is. -/
theorem settings_shape (h : provider.shape r = .ok q)
    (hone : (r.messages.filter (·.role.isSystemLike)).map Message.content = r.systemText.toList) :
    q.settings = r.systemText.toList := by
  obtain ⟨-, rfl⟩ | ⟨-, t, ht, rfl⟩ | ⟨-, s, hs, rfl⟩ := shape_eq_ok h
  · exact hone
  · rw [settings, (toolRequest_holds ht).1]
  · rw [settings, (sessionRequest_holds hs).1]

theorem turns_shape (h : provider.shape r = .ok q) {text : String}
    (hone : r.exchange = [Message.ofText .user text]) : q.turns = [⟨some "user", text⟩] := by
  have hspoken : spoken r = [(.user, text)] := by
    rw [spoken, hone]
    rfl
  obtain ⟨-, rfl⟩ | ⟨-, t, ht, rfl⟩ | ⟨-, s, hs, rfl⟩ := shape_eq_ok h
  · rw [turns, ← ChatRequest.turns, ChatRequest.turns_eq, hone]
    rfl
  · rw [turns, (toolRequest_holds ht).2, hspoken]
    rfl
  · rw [turns, history_append hs, hspoken]
    rfl

theorem provider_shape (h : provider.shape r = .ok q) : q.provider = provider := by
  obtain ⟨rfl, rfl⟩ | ⟨rfl, t, -, rfl⟩ | ⟨rfl, s, -, rfl⟩ := shape_eq_ok h <;> rfl

/-- Where nothing was said before the last turn there is no session. -/
theorem session_of_turns {s : SessionRequest} (h : provider.shape r = .ok (.gemini s))
    {turn : Content} (hone : (Request.gemini s).turns = [turn]) :
    s.history = [] ∧ s.inSession = false := by
  obtain ⟨-, ⟨⟩⟩ | ⟨-, t, -, ⟨⟩⟩ | ⟨-, s, hs, ⟨⟩⟩ := shape_eq_ok h
  have hhistory : s.history = [] := by
    have hlength := congrArg List.length hone
    simpa [turns] using hlength
  have hsession := inSession_iff hs
  simp [hhistory] at hsession
  exact ⟨hhistory, hsession⟩

end Provider.Request

namespace Formatter
open Provider

variable {f : Formatter} {model : String} {p : Prompt}

/-- The persona makes the one message that sets up the model, the other areas make the one turn. -/
theorem filter_format (hrole : (f.registry.lookup model).personaRole.isSystemLike = true) :
    (f.format model p).messages.filter (·.role.isSystemLike) =
        (f.personaMessage model p).toList ∧
      (f.format model p).messages.filter (fun m => !m.role.isSystemLike) =
        [Message.ofText .user (f.userText p)] := by
  have huser : Role.user.isSystemLike = false := rfl
  cases hpersona : renderArea f.options p .persona <;>
    simp [format, personaMessage, hpersona, Message.ofText, hrole, huser]

theorem content_personaMessage (f : Formatter) (model : String) (p : Prompt) :
    (f.personaMessage model p).toList.map Message.content =
      (renderArea f.options p .persona).toList := by
  cases hpersona : renderArea f.options p .persona <;>
    simp [personaMessage, hpersona, Message.ofText]

theorem settings_format (hrole : (f.registry.lookup model).personaRole.isSystemLike = true) :
    (f.format model p).settings = (renderArea f.options p .persona).toList := by
  rw [ChatRequest.settings_eq, (filter_format hrole).1, content_personaMessage,
    List.filter_eq_self]
  intro text htext
  simpa using renderArea_ne_empty (Option.mem_toList.mp htext)

/-- The persona is the whole system text. -/
theorem systemText_format (hrole : (f.registry.lookup model).personaRole.isSystemLike = true) :
    (f.format model p).systemText = renderArea f.options p .persona := by
  rw [ChatRequest.systemText_eq, settings_format hrole]
  cases renderArea f.options p .persona <;> simp [joinWith, List.intercalate]

theorem exchange_format (hrole : (f.registry.lookup model).personaRole.isSystemLike = true) :
    (f.format model p).exchange = [Message.ofText .user (f.userText p)] := by
  rw [← ChatRequest.turns_eq, ChatRequest.turns, (filter_format hrole).2]

/-- Whichever provider serves the model, its payload holds the rendered persona as the system text,
and one turn of the user with the rendered areas. -/
theorem formatFor_conversation {q : Provider.Request}
    (hrole : (f.registry.lookup model).personaRole.isSystemLike = true)
    (h : f.formatFor model p = .ok q) :
    q.provider = (f.registry.lookup model).provider ∧
    q.settings = (renderArea f.options p .persona).toList ∧
    (q.settings = [] ↔ ∀ s, p.persona = some s → ∀ l ∈ s.leaves, blank l.text = true) ∧
    q.turns = [⟨some "user", joinWith f.options.separator
      (Area.userOrder.filterMap (renderArea f.options p))⟩] ∧
    (∀ a, renderArea f.options p a = none ↔
      ∀ s, p.section? a = some s → ∀ l ∈ s.leaves, blank l.text = true) ∧
    ∀ s, q = .gemini s → s.history = [] ∧ s.inSession = false := by
  have hsettings : q.settings = (renderArea f.options p .persona).toList := by
    rw [Request.settings_shape h, systemText_format hrole]
    rw [(filter_format hrole).1, content_personaMessage, systemText_format hrole]
  have hturns := Request.turns_shape h (exchange_format hrole)
  refine ⟨Request.provider_shape h, hsettings, ?absent, hturns, renderArea_eq_none f.options p, ?mode⟩
  case absent =>
    rw [hsettings, Option.toList_eq_nil_iff, renderArea_eq_none]
    rfl
  case mode =>
    rintro s rfl
    exact Request.session_of_turns h hturns

def sessionFormatter : Formatter := ⟨.standard, ModelRegistry.empty.withDefault ⟨.gemini, .developer⟩⟩

/-- A persona of a blank leaf and a nested text, and an area with nothing to show. -/
def reviewPrompt : Prompt :=
  { Prompt.ofInstructions ⟨⟨none, .instruction, none, none, none⟩,
      [.leaf (.ofText .instruction "Review.")]⟩ with
    persona := some ⟨⟨some "Who", .trait, none, none, none⟩, [.leaf (.ofText .trait " "),
      .branch ⟨none, .trait, none, none, none⟩ [.leaf (.ofText .trait " Be kind. ")]]⟩
    tone := some ⟨⟨none, .instruction, none, none, none⟩, [.leaf (.ofText .instruction "\n")]⟩ }

theorem formatFor_conversation_review :
    (sessionFormatter.registry.lookup "m").personaRole.isSystemLike = true ∧
    ∃ q, sessionFormatter.formatFor "m" reviewPrompt = .ok q ∧ q.provider = .gemini ∧
      q.settings = ["Be kind."] ∧
      q.turns = [⟨some "user", "<Instructions>\nReview.\n</Instructions>"⟩] := by
  have hrole : (sessionFormatter.registry.lookup "m").personaRole.isSystemLike = true := rfl
  refine ⟨hrole, _, rfl, ?_⟩
  obtain ⟨hprovider, hsettings, -, hturns, -⟩ :=
    formatFor_conversation (f := sessionFormatter) (p := reviewPrompt) hrole rfl
  exact ⟨hprovider, hsettings.trans (by decide), hturns.trans (by decide)⟩

end Formatter
end PromptWeave
