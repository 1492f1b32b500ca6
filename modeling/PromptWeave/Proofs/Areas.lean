import PromptWeave.Proofs.Assembly

/-! Areas do not disturb each other.
A prompt is put together from parts: the section of each area and the structured result. A call
changes the part that it is for, in a way that does not depend on the other parts, or fails and
changes nothing. -/
namespace PromptWeave

namespace Prompt

/-- The section of an area, or the structured result. -/
def part (p : Prompt) : Option Area → Option Section ⊕ Option StructuredOutput
  | some area => .inl (p.section? area)
  | none => .inr p.structuredOutput

theorem ext_part {p q : Prompt} (h : ∀ which, p.part which = q.part which) : p = q := by
  have hsection (area : Area) : p.section? area = q.section? area :=
    Sum.inl.inj (h (some area))
  have houtput : p.structuredOutput = q.structuredOutput := Sum.inr.inj (h none)
  have hinstructions : p.instructions = q.instructions :=
    Option.some.inj (hsection .instructions)
  cases p
  cases q
  simp only [mk.injEq]
  exact ⟨hsection .persona, hinstructions, hsection .content, hsection .context,
    hsection .constraints, hsection .tone, hsection .examples, hsection .reasoning,
    hsection .responseFormat, hsection .safeguards, houtput⟩

@[simp] theorem part_withOutput (p : Prompt) (o : StructuredOutput) (which : Option Area) :
    part { p with structuredOutput := some o } which =
      if which = none then .inr (some o) else p.part which := by
  cases which with
  | none => rfl
  | some area => simp [part]

@[simp] theorem part_extend (p : Prompt) (area : Area) (items : List SectionItem)
    (which : Option Area) :
    (p.extend area items).part which =
      if which = some area then .inl (some ((p.sectionOrNew area).extend items))
      else p.part which := by
  cases which with
  | none => cases area <;> rfl
  | some b =>
    rw [part, extend, section?_updateSection]
    by_cases h : area = b
    · simp [h]
    · simp [h, Ne.symm h, part]

theorem sectionOrNew_congr {p q : Prompt} {area : Area}
    (h : p.part (some area) = q.part (some area)) : p.sectionOrNew area = q.sectionOrNew area := by
  have hsection : p.section? area = q.section? area := Sum.inl.inj h
  rw [sectionOrNew, sectionOrNew, hsection]

end Prompt

namespace Assembly

namespace Step

variable {p q : Prompt} (items : List SectionItem) (step : Step)

theorem part_put_of_ne {which : Option Area} (h : step.area? ≠ which) :
    (step.put p items).part which = p.part which := by
  cases step with
  | output o => simpa [put, area?] using fun h' => absurd h'.symm h
  | _ =>
    rw [put, Prompt.part_extend, if_neg]
    exact fun h' => h h'.symm

theorem part_put_congr (h : p.part step.area? = q.part step.area?) :
    (step.put p items).part step.area? = (step.put q items).part step.area? := by
  cases step with
  | output o => simp [put, area?]
  | _ =>
    have hsection := Prompt.sectionOrNew_congr h
    simp [put, area?, hsection]

end Step

variable (files : FileSystem) (a : Assembly)

def answered (p : Prompt) (step : Step) : Except Error Unit × Prompt :=
  (Reading.run files ((a.call step).run.run p)).1

/-- The prompt once all calls are made, those behind one that failed as well. -/
def after (p : Prompt) (steps : List Step) : Prompt :=
  (Reading.run files ((a.calls steps).run p)).1.2

def built (steps : List Step) : Prompt := a.after files .empty steps

/-- Work that leaves the prompt alone comes first; if it fails nothing else is done. -/
theorem answer_aside {α β : Type} (x : Attempt α) (f : α → Work β) (p : Prompt) :
    (Reading.run files ((aside x >>= f).run.run p)).1 =
      match x.result files with
      | .ok y => (Reading.run files ((f y).run.run p)).1
      | .error e => (.error e, p) := by
  change (Reading.run files ((x.run >>= fun r => pure (r, p)) >>= fun r =>
    (ExceptT.bindCont f r.1).run r.2)).1 = _
  rw [Reading.run_bind, Reading.run_bind]
  change _ = match (Reading.run files x.run).1 with
    | .ok y => (Reading.run files ((f y).run.run p)).1
    | .error e => (.error e, p)
  cases (Reading.run files x.run).1 <;> rfl

theorem answered_eq (p : Prompt) (step : Step) :
    a.answered files p step =
      match (a.perform p step).result files with
      | .ok q => (.ok (), q)
      | .error e => (.error e, p) := by
  cases step with
  | add area o input => rfl
  | file area path =>
    rw [answered, call, answer_aside, perform, Attempt.result_bind]
    cases (a.document area path).result files <;> rfl
  | folders area paths =>
    rw [answered, call, answer_aside, perform, Attempt.result_bind]
    rw [Attempt.result_lift]
    rfl
  | output o => rfl

theorem after_cons (p : Prompt) (step : Step) (steps : List Step) :
    a.after files p (step :: steps) = a.after files (a.answered files p step).2 steps := by
  change (Reading.run files ((a.call step).run.run p >>= fun r =>
    (a.calls steps).run r.2 >>= fun rs => pure (r.1 :: rs.1, rs.2))).1.2 = _
  rw [Reading.run_bind, Reading.run_bind]
  rfl

/-- On a prompt put together from nothing, the items of a step do not depend on the prompt. -/
theorem answered_fresh {p : Prompt} (h : p.Fresh) (step : Step) :
    a.answered files p step =
      match a.itemsOf files step with
      | .ok items => (.ok (), step.put p items)
      | .error e => (.error e, p) := by
  rw [answered_eq, result_perform files a h]
  cases a.itemsOf files step <;> rfl

theorem fresh_answered {p : Prompt} (h : p.Fresh) (step : Step) :
    (a.answered files p step).2.Fresh := by
  rw [answered_fresh files a h]
  cases a.itemsOf files step with
  | ok items => exact step.fresh_put h items
  | error e => exact h

theorem part_answered_of_ne {p : Prompt} (hp : p.Fresh) {step : Step} {which : Option Area}
    (h : step.area? ≠ which) : (a.answered files p step).2.part which = p.part which := by
  rw [answered_fresh files a hp]
  cases a.itemsOf files step with
  | ok items => exact step.part_put_of_ne items h
  | error e => rfl

theorem part_answered_congr {p q : Prompt} (hp : p.Fresh) (hq : q.Fresh) {step : Step}
    (h : p.part step.area? = q.part step.area?) :
    (a.answered files p step).2.part step.area? = (a.answered files q step).2.part step.area? := by
  rw [answered_fresh files a hp, answered_fresh files a hq]
  cases a.itemsOf files step with
  | ok items => exact step.part_put_congr items h
  | error e => exact h

/-- A part is what the calls for it alone make of it. -/
theorem part_after {p q : Prompt} (hp : p.Fresh) (hq : q.Fresh) {which : Option Area}
    (h : p.part which = q.part which) (steps : List Step) :
    (a.after files p steps).part which =
      (a.after files q (steps.filter fun step => step.area? = which)).part which := by
  -- the two prompts agree on the part only: on the right the calls for other parts are left out
  induction steps generalizing p q with
  | nil => exact h
  | cons step steps ih =>
    have hnext := fresh_answered files a hp step
    by_cases hstep : step.area? = which
    · subst hstep
      rw [List.filter_cons_of_pos (by simp), after_cons, after_cons]
      exact ih hnext (fresh_answered files a hq step) (part_answered_congr files a hp hq h)
    · rw [List.filter_cons_of_neg (by simpa using hstep), after_cons]
      exact ih hnext hq ((part_answered_of_ne files a hp hstep).trans h)

theorem part_built_congr {which : Option Area} {steps others : List Step}
    (h : steps.filter (fun step => step.area? = which) =
      others.filter fun step => step.area? = which) :
    (a.built files steps).part which = (a.built files others).part which := by
  have hempty := Prompt.fresh_empty
  rw [built, built, part_after files a hempty hempty rfl, h]
  exact (part_after files a hempty hempty rfl others).symm

/-- The section of an area depends on the calls for it only, calls for different parts may be
made in either order, and a call that fails leaves the prompt as it was. -/
theorem areas_independent :
    (∀ (area : Area) (steps others : List Step),
      steps.filter (fun step => step.area? = some area) =
        others.filter (fun step => step.area? = some area) →
      (a.built files steps).section? area = (a.built files others).section? area) ∧
    (∀ (before behind : List Step) (s t : Step), s.area? ≠ t.area? →
      a.built files (before ++ s :: t :: behind) = a.built files (before ++ t :: s :: behind)) ∧
    ∀ (p q : Prompt) (step : Step) (e : Error), a.answered files p step = (.error e, q) → q = p := by
  refine ⟨?own, ?swapped, ?failed⟩
  case own =>
    intro area steps others h
    exact Sum.inl.inj (part_built_congr files a h)
  case swapped =>
    intro before behind s t h
    refine Prompt.ext_part fun which => part_built_congr files a ?_
    have hone : s.area? ≠ which ∨ t.area? ≠ which := by
      by_cases hs : s.area? = which
      · exact Or.inr fun ht => h (hs.trans ht.symm)
      · exact Or.inl hs
    rcases hone with hs | ht
    · simp [List.filter_append, List.filter_cons, hs]
    · simp [List.filter_append, List.filter_cons, ht]
  case failed =>
    intro p q step e h
    rw [answered_eq] at h
    cases hstep : (a.perform p step).result files with
    | ok r =>
      rw [hstep] at h
      cases h
    | error e' =>
      rw [hstep] at h
      exact (congrArg Prod.snd h).symm

/-- A prompt file that is not there is in nobody's way. -/
theorem areas_independent_absentFile :
    let files : FileSystem :=
      ⟨fun _ => .error .notFound, fun _ => .error .notFound, fun _ => .error .notFound⟩
    let brief : Step := .add .instructions .none (.text "Be brief.")
    let absent : Step := .file .persona ⟨"persona.md"⟩
    let docs : Step := .folders .context [⟨"docs"⟩]
    let p := standard.built files [brief]
    (standard.built files [absent, docs, brief]).section? .instructions =
        p.section? .instructions ∧
      standard.built files [brief, absent, docs] = standard.built files [brief, docs, absent] ∧
      ∃ e q, standard.answered files p absent = (.error e, q) ∧ q = p := by
  intro files brief absent docs p
  obtain ⟨hown, hswapped, hfailed⟩ := areas_independent files standard
  have hanswer : standard.answered files p absent =
      (.error (.fileRead ⟨"./persona.md"⟩ .notFound), p) := rfl
  exact ⟨hown .instructions [absent, docs, brief] [brief] rfl,
    hswapped [brief] [] absent docs (by decide), _, _, hanswer, hfailed p p absent _ hanswer⟩

end Assembly
end PromptWeave
