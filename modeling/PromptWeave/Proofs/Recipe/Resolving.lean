import PromptWeave.Proofs.Assoc
import PromptWeave.Proofs.Lists
import PromptWeave.Proofs.Recipe.Layers

/-! When the templates of a recipe can be put in, and what comes of it.
Names are followed from template to template until there is no further name, or until one comes
back, is one too many or has no template. Which of these it is decides between a recipe and an
error, and only the templates under the names that were looked up have a say in it. -/
namespace PromptWeave
namespace Recipe

/-- The templates that names lead to one after the other, and the name behind the last of them. -/
inductive Leads (templates : Templates) :
    Option String → List (String × Recipe) → Option String → Prop
  | here (name : Option String) : Leads templates name [] name
  | next {name : String} {t : Recipe} {ts : List (String × Recipe)} {last : Option String}
      (found : templates.find? name = some t) (rest : Leads templates t.template ts last) :
      Leads templates (some name) ((name, t) :: ts) last

def Extends (templates : Templates) (name : Option String) (ts : List Recipe) : Prop :=
  ∃ named, Leads templates name named none ∧ ts = named.map (·.2)

theorem leads_none {templates : Templates} {ts : List (String × Recipe)} {last : Option String} :
    Leads templates none ts last ↔ ts = [] ∧ last = none := by
  constructor
  · intro h
    cases h
    exact ⟨rfl, rfl⟩
  · rintro ⟨rfl, rfl⟩
    exact .here none

theorem leads_some {templates : Templates} {name : String} {ts : List (String × Recipe)}
    {last : Option String} :
    Leads templates (some name) ts last ↔ (ts = [] ∧ last = some name) ∨
      ∃ t rest, templates.find? name = some t ∧ ts = (name, t) :: rest ∧
        Leads templates t.template rest last := by
  constructor
  · intro h
    cases h with
    | here => exact Or.inl ⟨rfl, rfl⟩
    | next found rest => exact Or.inr ⟨_, _, found, rfl, rest⟩
  · rintro (⟨rfl, rfl⟩ | ⟨t, rest, found, rfl, hrest⟩)
    · exact .here _
    · exact .next found hrest

theorem leads_of_found {templates : Templates} {name : String} {t : Recipe}
    {ts : List (String × Recipe)} {last : Option String} (found : templates.find? name = some t) :
    Leads templates (some name) ts last ↔ (ts = [] ∧ last = some name) ∨
      ∃ rest, ts = (name, t) :: rest ∧ Leads templates t.template rest last := by
  simp [leads_some, found]

/-- Why a name is not followed behind the names `seen`, with `left` more templates allowed. -/
inductive Refused (templates : Templates) (seen : List String) (left : Nat) (name : String) :
    Error → Prop
  | cycle (back : name ∈ seen) :
      Refused templates seen left name (.config (.templateCycle seen name))
  | tooDeep (new : name ∉ seen) (full : left = 0) :
      Refused templates seen left name (.config (.templatesTooDeep maxTemplates))
  | unknown (new : name ∉ seen) (room : 0 < left) (missing : templates.find? name = none) :
      Refused templates seen left name (.config (.unknownTemplate name))

variable {templates : Templates} {seen : List String} {name : String} {ts : List (String × Recipe)}

/-- From a name that is refused no template is reached. -/
theorem Refused.stays {left : Nat} {e : Error} {last : Option String}
    (h : Refused templates seen left name e) (hts : Leads templates (some name) ts last)
    (hnodup : (seen ++ ts.map (·.1)).Nodup) (hlength : ts.length ≤ left) :
    ts = [] ∧ last = some name := by
  obtain hstays | ⟨t, rest, found, rfl, -⟩ := leads_some.mp hts
  · exact hstays
  · cases h with
    | cycle back => exact absurd List.mem_cons_self (List.disjoint_of_nodup_append hnodup back)
    | tooDeep _ full =>
      rw [full] at hlength
      simp at hlength
    | unknown _ _ missing => cases missing.symm.trans found

theorem Refused.unique {left : Nat} {e e' : Error} (h : Refused templates seen left name e)
    (h' : Refused templates seen left name e') : e = e' := by
  cases h with
  | cycle back =>
    cases h' with
    | cycle => rfl
    | tooDeep new => exact absurd back new
    | unknown new => exact absurd back new
  | tooDeep new full =>
    cases h' with
    | cycle back => exact absurd back new
    | tooDeep => rfl
    | unknown _ room => omega
  | unknown new room =>
    cases h' with
    | cycle back => exact absurd back new
    | tooDeep _ full => omega
    | unknown => rfl

/-- The names end within the budget, and none of them comes back. -/
def Ends (templates : Templates) (budget : Nat) (seen : List String) (first : Option String)
    (ts : List (String × Recipe)) : Prop :=
  Leads templates first ts none ∧ (seen ++ ts.map (·.1)).Nodup ∧ ts.length ≤ budget

theorem Refused.not_ends {left : Nat} {e : Error} (h : Refused templates seen left name e) :
    ¬ Ends templates left seen (some name) ts := by
  rintro ⟨hts, hnodup, hlength⟩
  cases (h.stays hts hnodup hlength).2

theorem ends_succ {budget : Nat} {t : Recipe} (found : templates.find? name = some t) :
    Ends templates (budget + 1) seen (some name) ts ↔
      ∃ rest, ts = (name, t) :: rest ∧ Ends templates budget (seen ++ [name]) t.template rest := by
  constructor
  · rintro ⟨hts, hnodup, hlength⟩
    obtain ⟨-, hlast⟩ | ⟨rest, rfl, hrest⟩ := (leads_of_found found).mp hts
    · cases hlast
    · exact ⟨rest, rfl, hrest, by simpa using hnodup, by simpa using hlength⟩
  · rintro ⟨rest, rfl, hrest, hnodup, hlength⟩
    exact ⟨.next found hrest, by simpa using hnodup, by simpa using hlength⟩

/-- The chain of templates is complete when the names end. -/
theorem chain_eq_ok {budget : Nat} {first : Option String} {layers : List Recipe}
    (hseen : seen.Nodup) :
    chain templates budget seen first = .ok layers ↔
      ∃ ts, Ends templates budget seen first ts ∧ layers = ts.map fun t => t.2.rebased := by
  fun_induction chain templates budget seen first generalizing layers with
  | case1 budget seen =>
    constructor
    · intro h
      cases h
      exact ⟨[], ⟨.here none, by simpa using hseen, Nat.zero_le _⟩, rfl⟩
    · rintro ⟨ts, hts, rfl⟩
      rw [(leads_none.mp hts.1).1]
      rfl
  | case2 budget seen name back =>
    have hback : name ∈ seen := by simpa using back
    exact iff_of_false (by simp) fun ⟨_, hts, _⟩ => Refused.not_ends (.cycle hback) hts
  | case3 seen name new =>
    have hnew : name ∉ seen := by simpa using new
    exact iff_of_false (by simp) fun ⟨_, hts, _⟩ => Refused.not_ends (.tooDeep hnew rfl) hts
  | case4 seen name new budget missing =>
    have hnew : name ∉ seen := by simpa using new
    exact iff_of_false (by simp) fun ⟨_, hts, _⟩ =>
      Refused.not_ends (.unknown hnew (Nat.succ_pos budget) missing) hts
  | case5 seen name new budget t found ih =>
    have hnew : name ∉ seen := by simpa using new
    have hnext : (seen ++ [name]).Nodup := by simpa using hseen.concat hnew
    simp only [bind_eq_ok, pure_eq_ok, ih hnext, ends_succ found]
    constructor
    · rintro ⟨_, ⟨rest, hrest, rfl⟩, rfl⟩
      exact ⟨_, ⟨rest, rfl, hrest⟩, rfl⟩
    · rintro ⟨_, ⟨rest, rfl, hrest⟩, rfl⟩
      exact ⟨_, ⟨rest, hrest, rfl⟩, rfl⟩

def BreaksOff (templates : Templates) (budget : Nat) (seen : List String) (first : Option String)
    (e : Error) : Prop :=
  ∃ ts last, Leads templates first ts (some last) ∧ (seen ++ ts.map (·.1)).Nodup ∧
    ts.length ≤ budget ∧ Refused templates (seen ++ ts.map (·.1)) (budget - ts.length) last e

theorem Refused.breaksOff_iff {left : Nat} {e e' : Error} (hseen : seen.Nodup)
    (h : Refused templates seen left name e) :
    BreaksOff templates left seen (some name) e' ↔ e = e' := by
  constructor
  · rintro ⟨ts, last, hts, hnodup, hlength, hrefused⟩
    obtain ⟨rfl, hlast⟩ := h.stays hts hnodup hlength
    cases hlast
    exact h.unique (by simpa using hrefused)
  · rintro rfl
    exact ⟨[], name, .here _, by simpa using hseen, Nat.zero_le _, by simpa using h⟩

theorem breaksOff_succ {budget : Nat} {t : Recipe} {e : Error} (hnew : name ∉ seen)
    (found : templates.find? name = some t) :
    BreaksOff templates (budget + 1) seen (some name) e ↔
      BreaksOff templates budget (seen ++ [name]) t.template e := by
  constructor
  · rintro ⟨ts, last, hts, hnodup, hlength, hrefused⟩
    obtain ⟨rfl, hlast⟩ | ⟨rest, rfl, hrest⟩ := (leads_of_found found).mp hts
    · cases hlast
      rw [List.map_nil, List.append_nil] at hrefused
      cases hrefused with
      | cycle back => exact absurd back hnew
      | tooDeep _ full => simp at full
      | unknown _ _ missing => cases missing.symm.trans found
    · exact ⟨rest, last, hrest, by simpa using hnodup, by simpa using hlength,
        by simpa using hrefused⟩
  · rintro ⟨ts, last, hts, hnodup, hlength, hrefused⟩
    exact ⟨(name, t) :: ts, last, .next found hts, by simpa using hnodup, by simpa using hlength,
      by simpa using hrefused⟩

/-- The chain of templates breaks off at the first name that is refused. -/
theorem chain_eq_error {budget : Nat} {first : Option String} {e : Error} (hseen : seen.Nodup) :
    chain templates budget seen first = .error e ↔ BreaksOff templates budget seen first e := by
  fun_induction chain templates budget seen first with
  | case1 budget seen =>
    refine iff_of_false (by simp) ?_
    rintro ⟨ts, last, hts, -, -, -⟩
    cases (leads_none.mp hts).2
  | case2 budget seen name back =>
    have hback : name ∈ seen := by simpa using back
    rw [Refused.breaksOff_iff hseen (.cycle hback), Except.error.injEq]
  | case3 seen name new =>
    have hnew : name ∉ seen := by simpa using new
    rw [Refused.breaksOff_iff hseen (.tooDeep hnew rfl), Except.error.injEq]
  | case4 seen name new budget missing =>
    have hnew : name ∉ seen := by simpa using new
    rw [Refused.breaksOff_iff hseen (.unknown hnew (Nat.succ_pos budget) missing),
      Except.error.injEq]
  | case5 seen name new budget t found ih =>
    have hnew : name ∉ seen := by simpa using new
    have hnext : (seen ++ [name]).Nodup := by simpa using hseen.concat hnew
    rw [breaksOff_succ hnew found, ← ih hnext, bind_eq_error]
    refine or_iff_left ?_
    rintro ⟨layers, -, hpure⟩
    cases hpure

/-- Registries that agree on the names that are looked up give the same chain. -/
theorem chain_congr {others : Templates} {budget : Nat} {first : Option String}
    (h : ∀ ts last, Leads templates first ts (some last) → ts.length < budget →
      others.find? last = templates.find? last) :
    chain others budget seen first = chain templates budget seen first := by
  fun_induction chain templates budget seen first with
  | case1 budget seen => cases budget <;> rfl
  | case2 budget seen name back => cases budget <;> simp only [chain, back, if_true]
  | case3 seen name new =>
    simp only [chain, new]
    rfl
  | case4 seen name new budget missing =>
    have hother := (h [] name (.here _) (Nat.succ_pos budget)).trans missing
    simp only [chain, new, hother]
    rfl
  | case5 seen name new budget t found ih =>
    have hother := (h [] name (.here _) (Nat.succ_pos budget)).trans found
    have hrest := ih fun ts last hts hlength =>
      h ((name, t) :: ts) last (.next found hts) (Nat.succ_lt_succ hlength)
    simp only [chain, new, hother, hrest]
    rfl

/-! ### The recipe of all layers -/

/-- A stack goes on where its last layer does. -/
theorem stack_template {r : Recipe} {last : Option String}
    (h : Leads templates r.template ts last) :
    (r.stack (ts.map fun t => t.2.rebased)).template = last := by
  generalize hr : r.template = first at h
  induction h generalizing r with
  | here name => exact hr
  | next found rest ih => exact ih (rebased_template _)

theorem layered_stack {r : Recipe} (h : Leads templates r.template ts none) :
    Layered r (ts.map (·.2)) (r.stack (ts.map fun t => t.2.rebased)) := by
  have hlayers : (ts.map fun t => t.2.rebased) = (ts.map (·.2)).map rebased := by
    rw [List.map_map]
    rfl
  have hfind : ∀ {α : Type} (f : Recipe → Option α), (∀ t, f t.rebased = f t) →
      (r :: (ts.map (·.2)).map rebased).findSome? f = (r :: ts.map (·.2)).findSome? f := by
    intro α f hf
    have hsame : f ∘ rebased = f := funext hf
    rw [List.findSome?_cons, List.findSome?_cons, List.findSome?_map, hsame]
  refine ⟨stack_template h, ?base, ?parameters, ?entries, ?overrides, ?structuredOutput⟩
  all_goals rw [hlayers]
  case base => rw [stack_nearest base_mergedOnto, hfind Recipe.base rebased_base]
  case parameters =>
    intro key
    have hkey : ∀ r t : Recipe, (r.mergedOnto t).parameters.find? key =
        (r.parameters.find? key).or (t.parameters.find? key) := fun r t => Dict.find?_onto _ _ key
    rw [stack_nearest (f := fun l => l.parameters.find? key) hkey,
      hfind _ fun t => by rw [rebased_parameters]]
  case entries =>
    intro a
    rw [stack_entries, ← List.map_reverse, List.flatMap_map]
    simp only [rebased_entries]
  case overrides => exact stack_overrides_rebased r _
  case structuredOutput =>
    rw [stack_nearest structuredOutput_mergedOnto, hfind _ rebased_structuredOutput]

/-! ### Resolving -/

theorem resolve_eq_ok {r flat : Recipe} :
    r.resolve templates = .ok flat ↔
      ∃ ts, Ends templates maxTemplates [] r.template ts ∧ Layered r (ts.map (·.2)) flat := by
  simp only [resolve, bind_eq_ok, pure_eq_ok, chain_eq_ok List.nodup_nil]
  constructor
  · rintro ⟨_, ⟨ts, hts, rfl⟩, rfl⟩
    exact ⟨ts, hts, layered_stack hts.1⟩
  · rintro ⟨ts, hts, hflat⟩
    exact ⟨_, ⟨ts, hts, rfl⟩, (layered_stack hts.1).unique hflat⟩

theorem resolve_extends {r flat : Recipe} (h : r.resolve templates = .ok flat) :
    ∃ ts, Extends templates r.template ts ∧ Layered r ts flat := by
  obtain ⟨named, hends, hlayered⟩ := resolve_eq_ok.mp h
  exact ⟨_, ⟨named, hends.1, rfl⟩, hlayered⟩

theorem resolve_eq_error {r : Recipe} {e : Error} :
    r.resolve templates = .error e ↔ BreaksOff templates maxTemplates [] r.template e := by
  rw [resolve, bind_eq_error, chain_eq_error List.nodup_nil]
  refine or_iff_left ?_
  rintro ⟨layers, -, hpure⟩
  cases hpure

/-- A recipe has its templates put in exactly when the names of templates end after at most eight
registered templates with names that all differ; it then says what its layers say, and that is all
it can be. Otherwise the names break off at the first that comes back, is one too many or is not
registered. A registry with the same templates under the names that are looked up gives the same,
whatever else is registered in it. -/
theorem resolve_layers (r : Recipe) (templates : Templates) :
    (∀ flat, r.resolve templates = .ok flat ↔
      ∃ ts, Leads templates r.template ts none ∧ (ts.map (·.1)).Nodup ∧ ts.length ≤ maxTemplates ∧
        Layered r (ts.map (·.2)) flat) ∧
    (∀ e, r.resolve templates = .error e ↔
      ∃ ts last, Leads templates r.template ts (some last) ∧ (ts.map (·.1)).Nodup ∧
        ts.length ≤ maxTemplates ∧
        Refused templates (ts.map (·.1)) (maxTemplates - ts.length) last e) ∧
    ∀ others : Templates,
      (∀ ts last, Leads templates r.template ts (some last) → ts.length < maxTemplates →
        others.find? last = templates.find? last) →
      r.resolve others = r.resolve templates := by
  refine ⟨fun flat => ?ok, fun e => ?error, fun others hothers => ?others⟩
  case ok =>
    simp only [resolve_eq_ok, Ends, List.nil_append, and_assoc]
  case error =>
    simp only [resolve_eq_error, BreaksOff, List.nil_append]
  case others =>
    rw [resolve, resolve, chain_congr hothers]

def own : Recipe := {
  template := some "near"
  base := none
  parameters := Dict.ofList [("team", .str "mine")]
  entries := fun a => if a = .instructions then [.path ⟨"own.md"⟩] else []
  overrides := none
  structuredOutput := none }

def near : Recipe := {
  template := some "far"
  base := some ⟨"/team"⟩
  parameters := Dict.ofList [("team", .str "docs"), ("tone", .str "warm")]
  entries := fun a => if a = .instructions then [.path ⟨"near.md"⟩, .text "Be brief."] else []
  overrides := none
  structuredOutput := none }

def far : Recipe := {
  template := none
  base := some ⟨"shared"⟩
  parameters := Dict.ofList [("tone", .str "calm"), ("year", .str "now")]
  entries := fun a =>
    if a = .instructions then [.path ⟨"far.md"⟩, .path ⟨"/all.md"⟩]
    else if a = .context then [.directories [⟨"docs"⟩]] else []
  overrides := some ⟨[⟨"local"⟩, ⟨"/local"⟩], true⟩
  structuredOutput := some ⟨"verdict", none, .obj [], none⟩ }

/-- The three of them in one. -/
def nearOnFar : Recipe := {
  template := none
  base := some ⟨"/team"⟩
  parameters := Dict.ofList [("team", .str "mine"), ("tone", .str "warm"), ("year", .str "now")]
  entries := fun a =>
    if a = .instructions then
      [.path ⟨"shared/far.md"⟩, .path ⟨"/all.md"⟩, .path ⟨"/team/near.md"⟩, .text "Be brief.",
        .path ⟨"own.md"⟩]
    else if a = .context then [.directories [⟨"shared/docs"⟩]] else []
  overrides := some ⟨[⟨"shared/local"⟩, ⟨"/local"⟩], true⟩
  structuredOutput := some ⟨"verdict", none, .obj [], none⟩ }

theorem layered_nearOnFar : Layered own [near, far] nearOnFar where
  template := rfl
  base := rfl
  parameters := by
    have honto : nearOnFar.parameters = own.parameters.onto (near.parameters.onto far.parameters) := by
      decide
    intro key
    rw [honto, Dict.find?_onto, Dict.find?_onto]
    simp only [List.findSome?_cons, List.findSome?_nil]
    cases own.parameters.find? key <;> cases near.parameters.find? key <;>
      cases far.parameters.find? key <;> rfl
  entries := by
    intro a
    cases a <;> decide
  overrides := by decide
  structuredOutput := rfl

def nearAndFar : Templates := Dict.ofList [("near", near), ("far", far)]

/-- The same two templates, and one that goes on with itself. -/
def besideLoop : Templates := nearAndFar.insert "loop" { Recipe.empty with template := some "loop" }

theorem resolve_layers_besideLoop :
    own.resolve besideLoop = .ok nearOnFar ∧
    { Recipe.empty with template := some "loop" }.resolve besideLoop =
      .error (.config (.templateCycle ["loop"] "loop")) ∧
    own.resolve besideLoop = own.resolve nearAndFar := by
  refine ⟨?layers, ?cycle, ?beside⟩
  case layers =>
    refine ((resolve_layers own besideLoop).1 nearOnFar).mpr ?_
    exact ⟨[("near", near), ("far", far)], .next rfl (.next rfl (.here none)), by decide, by decide,
      layered_nearOnFar⟩
  case cycle =>
    refine ((resolve_layers _ besideLoop).2.1 _).mpr ?_
    exact ⟨[("loop", { Recipe.empty with template := some "loop" })], "loop", .next rfl (.here _),
      by decide, by decide, .cycle (by decide)⟩
  case beside =>
    refine (resolve_layers own nearAndFar).2.2 besideLoop fun ts last hts _ => ?_
    obtain ⟨-, hlast⟩ | ⟨rest, -, hrest⟩ := (leads_of_found (t := near) rfl).mp hts
    · cases hlast
      rfl
    obtain ⟨-, hlast⟩ | ⟨more, -, hmore⟩ := (leads_of_found (t := far) rfl).mp hrest
    · cases hlast
      rfl
    · cases (leads_none.mp hmore).2

end Recipe
end PromptWeave
