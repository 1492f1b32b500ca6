import PromptWeave.Proofs.Lists
import PromptWeave.Provider.Request

/-! What a request says, whoever takes it.
A request holds texts that set up the model and turns of a conversation. Each provider has places of
its own for them, and all providers are told the same. -/
namespace PromptWeave

theorem Role.isSystemLike_iff (role : Role) :
    role.isSystemLike = true ↔ role = .system ∨ role = .developer := by
  cases role <;> simp [isSystemLike]

namespace ChatRequest

/-- What system and developer messages say, those that say nothing apart. -/
def settings (r : ChatRequest) : List String :=
  (r.messages.filter fun m => (m.role = .system ∨ m.role = .developer) ∧ m.content ≠ "").map
    Message.content

def exchange (r : ChatRequest) : List Message :=
  r.messages.filter fun m => m.role = .user ∨ m.role = .assistant

theorem settings_eq (r : ChatRequest) :
    r.settings =
      ((r.messages.filter (·.role.isSystemLike)).map Message.content).filter (· ≠ "") := by
  rw [settings, List.filter_map, List.filter_filter]
  congr 1
  apply List.filter_congr
  intro m _
  simp [← Role.isSystemLike_iff, and_comm]

theorem systemText_eq (r : ChatRequest) :
    r.systemText = if r.settings = [] then none else some (joinWith "\n\n" r.settings) := by
  simp only [systemText, ← settings_eq, List.isEmpty_iff]

theorem turns_eq (r : ChatRequest) : r.turns = r.exchange := by
  apply List.filter_congr
  intro m _
  cases m.role <;> simp [Role.isSystemLike]

end ChatRequest

namespace Provider

/-! ### The form of each provider -/

/-- Who speaks and what is said, with an empty turn of the user where there is none. -/
def spoken (r : ChatRequest) : List (Role × String) :=
  if r.exchange = [] then [(.user, "")] else r.exchange.map fun m => (m.role, m.content)

theorem toolMessages_eq (r : ChatRequest) : toolMessages r = spoken r := by
  rw [toolMessages, r.turns_eq, spoken]
  cases r.exchange <;> rfl

theorem splitLast_append (r : ChatRequest) :
    (splitLast r).1 ++ [(splitLast r).2] =
      (spoken r).map fun (role, text) => ⟨some (speaker role), text⟩ := by
  simp only [splitLast, r.turns_eq, spoken]
  by_cases h : r.exchange = []
  · simp [h, speaker]
  · have hne : r.exchange.map (fun m => Content.mk (some (speaker m.role)) m.content) ≠ [] := by
      simpa using h
    rw [List.getLast?_eq_getLast_of_ne_nil hne, Option.getD_some,
      List.dropLast_append_getLast hne, if_neg h, List.map_map]
    rfl

theorem length_splitLast (r : ChatRequest) : (splitLast r).1.length = r.turns.length - 1 := by
  simp [splitLast]

theorem plainRequest_eq (r : ChatRequest) : plainRequest r = .ok r := by
  unfold plainRequest
  split
  next type o h =>
    have hsame : { r with responseFormat := some ⟨type, some o⟩ } = r := by rw [← h]
    exact congrArg Except.ok hsame
  next => rfl

theorem toolRequest_holds {r : ChatRequest} {t : ToolRequest} (h : toolRequest r = .ok t) :
    t.system = r.systemText ∧ t.messages = spoken r := by
  obtain ⟨tool, -, ht⟩ := bind_eq_ok.mp h
  rw [← pure_eq_ok.mp ht]
  exact ⟨rfl, toolMessages_eq r⟩

theorem sessionRequest_holds {r : ChatRequest} {s : SessionRequest}
    (h : sessionRequest r = .ok s) :
    s.system.map Content.text = r.systemText ∧ (s.history, s.message) = splitLast r ∧
      s.inSession = decide (1 < r.turns.length) := by
  obtain ⟨schema, -, hs⟩ := bind_eq_ok.mp h
  rw [← pure_eq_ok.mp hs]
  refine ⟨?_, rfl, rfl⟩
  simp [Function.comp_def]

/-- What each provider makes of a request. -/
theorem shape_eq_ok {p : Provider} {r : ChatRequest} {q : Request} (h : shape p r = .ok q) :
    (p = .openai ∧ q = .openai r) ∨
      (p = .anthropic ∧ ∃ t, toolRequest r = .ok t ∧ q = .anthropic t) ∨
      (p = .gemini ∧ ∃ s, sessionRequest r = .ok s ∧ q = .gemini s) := by
  cases p with
  | openai =>
    rw [shape, plainRequest_eq] at h
    cases h
    exact Or.inl ⟨rfl, rfl⟩
  | anthropic =>
    obtain ⟨t, ht, hq⟩ := bind_eq_ok.mp h
    exact Or.inr (Or.inl ⟨rfl, t, ht, (pure_eq_ok.mp hq).symm⟩)
  | gemini =>
    obtain ⟨s, hs, hq⟩ := bind_eq_ok.mp h
    exact Or.inr (Or.inr ⟨rfl, s, hs, (pure_eq_ok.mp hq).symm⟩)

theorem inSession_iff {r : ChatRequest} {s : SessionRequest} (h : sessionRequest r = .ok s) :
    s.inSession = true ↔ s.history ≠ [] := by
  obtain ⟨-, hsplit, hsession⟩ := sessionRequest_holds h
  have hhistory : s.history = (splitLast r).1 := congrArg Prod.fst hsplit
  have hlength := length_splitLast r
  rw [hsession, hhistory, ← List.length_pos_iff, decide_eq_true_eq]
  omega

theorem history_append {r : ChatRequest} {s : SessionRequest} (h : sessionRequest r = .ok s) :
    s.history ++ [s.message] = (spoken r).map fun (role, text) => ⟨some (speaker role), text⟩ := by
  obtain ⟨-, hsplit, -⟩ := sessionRequest_holds h
  have hlast := splitLast_append r
  rwa [← hsplit] at hlast

/-- Whichever provider takes a request, it is told the same: the system text is what the system and
developer messages say, and the turns are those of the user and the assistant. -/
theorem shape_conversation (r : ChatRequest) :
    shape .openai r = .ok (.openai r) ∧
    (∀ q, shape .anthropic r = .ok q → ∃ t, q = .anthropic t ∧
      t.system = (if r.settings = [] then none else some (joinWith "\n\n" r.settings)) ∧
      t.messages =
        if r.exchange = [] then [(.user, "")] else r.exchange.map fun m => (m.role, m.content)) ∧
    (∀ q, shape .gemini r = .ok q → ∃ s, q = .gemini s ∧
      s.system.map Content.text =
        (if r.settings = [] then none else some (joinWith "\n\n" r.settings)) ∧
      s.history ++ [s.message] =
        (if r.exchange = [] then [⟨some "user", ""⟩] else r.exchange.map fun m =>
          ⟨some (if m.role = .assistant then "model" else "user"), m.content⟩) ∧
      (s.inSession = true ↔ s.history ≠ [])) := by
  refine ⟨?openai, ?anthropic, ?gemini⟩
  case openai =>
    rw [shape, plainRequest_eq]
    rfl
  case anthropic =>
    intro q hq
    obtain ⟨⟨⟩, -⟩ | ⟨-, t, ht, rfl⟩ | ⟨⟨⟩, -⟩ := shape_eq_ok hq
    obtain ⟨hsystem, hmessages⟩ := toolRequest_holds ht
    exact ⟨t, rfl, hsystem.trans r.systemText_eq, hmessages⟩
  case gemini =>
    intro q hq
    obtain ⟨⟨⟩, -⟩ | ⟨⟨⟩, -⟩ | ⟨-, s, hs, rfl⟩ := shape_eq_ok hq
    obtain ⟨hsystem, -, -⟩ := sessionRequest_holds hs
    refine ⟨s, rfl, hsystem.trans r.systemText_eq, ?_, inSession_iff hs⟩
    rw [history_append hs, spoken]
    split_ifs with h
    · rfl
    · rw [List.map_map]
      apply List.map_congr_left
      intro m _
      cases hrole : m.role <;> simp [hrole, speaker]

def strewnRequest : ChatRequest := .ofMessages [
  .ofText .developer "Never guess.", .ofText .user "Hi.", .ofText .system "",
  .ofText .assistant "Hello.", .ofText .system "Be brief.", .ofText .user "Bye."]

theorem shape_conversation_strewn :
    shape .openai strewnRequest = .ok (.openai strewnRequest) ∧
    (∃ q, shape .anthropic strewnRequest = .ok q ∧ ∃ t, q = .anthropic t ∧
      t.system = some "Never guess.\n\nBe brief." ∧
      t.messages = [(.user, "Hi."), (.assistant, "Hello."), (.user, "Bye.")]) ∧
    ∃ q, shape .gemini strewnRequest = .ok q ∧ ∃ s, q = .gemini s ∧
      s.system.map Content.text = some "Never guess.\n\nBe brief." ∧
      s.history ++ [s.message] =
        [⟨some "user", "Hi."⟩, ⟨some "model", "Hello."⟩, ⟨some "user", "Bye."⟩] ∧
      (s.inSession = true ↔ s.history ≠ []) := by
  obtain ⟨hplain, htool, hsession⟩ := shape_conversation strewnRequest
  refine ⟨hplain, ⟨_, rfl, ?_⟩, _, rfl, ?_⟩
  · obtain ⟨t, ht, hsystem, hmessages⟩ := htool _ rfl
    exact ⟨t, ht, hsystem.trans (by decide), hmessages.trans (by decide)⟩
  · obtain ⟨s, hs, hsystem, hturns, hmode⟩ := hsession _ rfl
    exact ⟨s, hs, hsystem.trans (by decide), hturns.trans (by decide), hmode⟩

end Provider
end PromptWeave
