import Mathlib.Data.List.Forall2
import PromptWeave.Assembly
import PromptWeave.Proofs.Files.Attempts
import PromptWeave.Proofs.Section

/-! What the steps of an assembly put in.
A step puts items behind those of its area. Which ones depends on the section of the area only
through its head, and in a prompt put together from nothing that is the head of an empty section. -/
namespace PromptWeave

namespace Section

theorem itemOf_congr {s t : Section} (h : s.head = t.head) : s.itemOf = t.itemOf := by
  funext options input
  cases input <;> simp only [itemOf, h]

end Section

namespace Prompt

/-- No area has a section with a head of its own. -/
def Fresh (p : Prompt) : Prop :=
  ∀ a s, p.section? a = some s → s.head = (Section.empty a.kind).head

theorem fresh_empty : Prompt.empty.Fresh := by
  intro a s hs
  cases a <;> cases hs
  rfl

theorem Fresh.head_sectionOrNew {p : Prompt} (h : p.Fresh) (a : Area) :
    (p.sectionOrNew a).head = (Section.empty a.kind).head := by
  rw [sectionOrNew]
  cases hs : p.section? a with
  | none => rfl
  | some s => exact h a s hs

theorem section?_updateSection (p : Prompt) (a b : Area) (f : Section → Section) :
    (p.updateSection a f).section? b =
      if a = b then some (f (p.sectionOrNew a)) else p.section? b := by
  rw [updateSection, section?_withSection]

@[simp] theorem section?_withOutput (p : Prompt) (o : Option StructuredOutput) (a : Area) :
    Prompt.section? { p with structuredOutput := o } a = p.section? a := by
  cases a <;> rfl

def itemsIn (p : Prompt) (a : Area) : List SectionItem := (p.sectionOrNew a).items

def extend (p : Prompt) (a : Area) (items : List SectionItem) : Prompt :=
  p.updateSection a fun s => s.extend items

theorem Fresh.extend {p : Prompt} (h : p.Fresh) (a : Area) (items : List SectionItem) :
    (p.extend a items).Fresh := by
  intro b s hs
  rw [Prompt.extend, section?_updateSection] at hs
  split at hs
  next hab =>
    subst hab
    cases hs
    exact h.head_sectionOrNew a
  next => exact h b s hs

theorem itemsIn_extend (p : Prompt) (a b : Area) (items : List SectionItem) :
    (p.extend a items).itemsIn b = p.itemsIn b ++ if a = b then items else [] := by
  rw [itemsIn, sectionOrNew, Prompt.extend, section?_updateSection]
  by_cases hab : a = b
  · subst hab
    simp [Section.extend, itemsIn]
  · simp [hab, itemsIn, sectionOrNew]

theorem extend_inj {p : Prompt} {a : Area} {items others : List SectionItem}
    (h : p.extend a items = p.extend a others) : items = others := by
  have hitems := congrArg (fun q => q.itemsIn a) h
  simpa [itemsIn_extend] using hitems

end Prompt

namespace Assembly

/-- A section without a title gives its items, one with a title itself. -/
def documentItems (s : Section) : List SectionItem :=
  match s.head.title with
  | none => s.items
  | some _ => [s.toItem]

theorem addDocument_eq (s document : Section) :
    addDocument s document = s.extend (documentItems document) := by
  unfold addDocument documentItems
  cases document.head.title <;> rfl

theorem addSections_eq (s : Section) (inner : List Section) :
    addSections s inner = s.extend (inner.map Section.toItem) := by
  induction inner generalizing s with
  | nil => simp [addSections, Section.extend]
  | cons t inner ih =>
    rw [addSections, List.foldl_cons]
    refine (ih (s.append (.nested t))).trans ?_
    simp [Section.extend, Section.append, Section.appendWith, Section.itemOf, Section.toItem,
      AddOptions.none]

variable (files : FileSystem) (a : Assembly)

def itemsOf : Step → Except Error (List SectionItem)
  | .add area o input => .ok [(Section.empty area.kind).itemOf (a.options o) input]
  | .file area p => ((a.document area p).result files).map documentItems
  | .folders area ps => .ok ((Reading.run files (a.sections area ps)).1.map Section.toItem)
  | .output _ => .ok []

def Step.put (p : Prompt) (items : List SectionItem) : Step → Prompt
  | .add area _ _ | .file area _ | .folders area _ => p.extend area items
  | .output o => { p with structuredOutput := some o }

theorem Step.fresh_put {p : Prompt} (h : p.Fresh) (items : List SectionItem) (step : Step) :
    (step.put p items).Fresh := by
  cases step with
  | output o => exact fun b s hs => h b s (by simpa [put] using hs)
  | _ => exact h.extend _ items

theorem result_perform {p : Prompt} (h : p.Fresh) (step : Step) :
    (a.perform p step).result files = (a.itemsOf files step).map fun items => step.put p items := by
  cases step with
  | add area o input =>
    have hitem := Section.itemOf_congr (h.head_sectionOrNew area)
    simp only [perform, itemsOf, Step.put, Prompt.extend, Prompt.updateSection, Section.appendWith,
      hitem]
    rfl
  | file area path =>
    rw [perform, Attempt.result_bind, itemsOf]
    cases (a.document area path).result files with
    | error e => rfl
    | ok document =>
      simp only [addDocument_eq]
      rfl
  | folders area paths =>
    rw [perform, Attempt.result_bind, Attempt.result_lift, itemsOf]
    simp only [addSections_eq]
    rfl
  | output o => rfl

theorem Step.itemsIn_put (p : Prompt) (items : List SectionItem) (step : Step) (area : Area) :
    (step.put p items).itemsIn area =
      p.itemsIn area ++ if step.area? = some area then items else [] := by
  cases step with
  | output o => simp [put, area?, Prompt.itemsIn, Prompt.sectionOrNew]
  | _ =>
    rw [put, Prompt.itemsIn_extend]
    simp [area?]

/-- After all steps an area holds what the steps for it have put in, in their order, and nothing
else. -/
theorem itemsIn_foldlM {steps : List Step} {p last : Prompt} (hp : p.Fresh)
    (h : (steps.foldlM a.perform p).result files = .ok last) :
    last.Fresh ∧ ∀ area, ∃ puts,
      List.Forall₂ (fun step items => a.itemsOf files step = .ok items)
        (steps.filter fun step => step.area? = some area) puts ∧
      last.itemsIn area = p.itemsIn area ++ puts.flatten := by
  induction steps generalizing p with
  | nil =>
    cases h
    exact ⟨hp, fun area => ⟨[], .nil, (List.append_nil _).symm⟩⟩
  | cons step steps ih =>
    rw [List.foldlM_cons] at h
    obtain ⟨next, hnext, hlast⟩ := Attempt.result_bind_eq_ok.mp h
    rw [result_perform files a hp] at hnext
    cases hitems : a.itemsOf files step with
    | error e =>
      rw [hitems] at hnext
      cases hnext
    | ok items =>
      rw [hitems] at hnext
      cases hnext
      obtain ⟨hfresh, hrest⟩ := ih (step.fresh_put hp items) hlast
      refine ⟨hfresh, fun area => ?_⟩
      obtain ⟨puts, hputs, hlastItems⟩ := hrest area
      rw [Step.itemsIn_put] at hlastItems
      by_cases harea : step.area? = some area
      · refine ⟨items :: puts, ?_, ?_⟩
        · rw [List.filter_cons_of_pos (by simpa using harea)]
          exact .cons hitems hputs
        · rw [hlastItems, if_pos harea, List.flatten_cons, List.append_assoc]
      · refine ⟨puts, ?_, ?_⟩
        · rw [List.filter_cons_of_neg (by simpa using harea)]
          exact hputs
        · rw [hlastItems, if_neg harea, List.append_nil]

end Assembly
end PromptWeave
