import Mathlib.Data.List.Forall2

/-! Results in a row, lists that agree place by place, and folds over them. -/
namespace PromptWeave

theorem bind_eq_ok {α β ε : Type} {x : Except ε α} {f : α → Except ε β} {b : β} :
    (x >>= f) = .ok b ↔ ∃ a, x = .ok a ∧ f a = .ok b := by
  cases x <;> simp [Bind.bind, Except.bind]

theorem bind_eq_error {α β ε : Type} {x : Except ε α} {f : α → Except ε β} {e : ε} :
    (x >>= f) = .error e ↔ x = .error e ∨ ∃ a, x = .ok a ∧ f a = .error e := by
  cases x <;> simp [Bind.bind, Except.bind]

theorem pure_eq_ok {α ε : Type} {a b : α} : (pure a : Except ε α) = .ok b ↔ a = b := by
  simp [pure, Except.pure]

theorem exists_of_forall₂ {α β : Type} {R : α → β → Prop} {as : List α} {bs : List β}
    (h : List.Forall₂ R as bs) {a : α} (ha : a ∈ as) : ∃ b ∈ bs, R a b := by
  induction h with
  | nil => simp at ha
  | @cons a' b as bs hab _ ih =>
    rcases List.mem_cons.mp ha with rfl | ha
    · exact ⟨b, List.mem_cons_self, hab⟩
    · obtain ⟨b', hb', hr⟩ := ih ha
      exact ⟨b', List.mem_cons_of_mem b hb', hr⟩

theorem rel_of_mem {β γ : Type} {R S : β → γ → Prop} {b? : Option β} {c? : Option γ}
    (h : Option.Rel R b? c?) (himp : ∀ b, ∀ c ∈ c?, R b c → S b c) : Option.Rel S b? c? := by
  cases h with
  | none => exact .none
  | some hbc => exact .some (himp _ _ rfl hbc)

theorem rel_getElem? {α β : Type} {R : α → β → Prop} {as : List α} {bs : List β}
    (h : List.Forall₂ R as bs) (i : Nat) : Option.Rel R as[i]? bs[i]? := by
  induction h generalizing i with
  | nil => exact .none
  | cons hab _ ih =>
    cases i with
    | zero => exact .some hab
    | succ i => simpa using ih i

theorem forall₂_replicate {α β : Type} {R : α → β → Prop} {as : List α} {b : β}
    (h : ∀ a ∈ as, R a b) : List.Forall₂ R as (List.replicate as.length b) := by
  induction as with
  | nil => exact .nil
  | cons a as ih =>
    exact .cons (h a List.mem_cons_self) (ih fun a' ha' => h a' (List.mem_cons_of_mem a ha'))

theorem forall₂_imp_mem {α β : Type} {R S : α → β → Prop} {as : List α} {bs : List β}
    (h : List.Forall₂ R as bs) (himp : ∀ a ∈ as, ∀ b, R a b → S a b) : List.Forall₂ S as bs := by
  induction h with
  | nil => exact .nil
  | @cons a b as bs hab _ ih =>
    refine .cons (himp a List.mem_cons_self b hab) (ih fun a' ha' b' => ?_)
    exact himp a' (List.mem_cons_of_mem a ha') b'

theorem mapM_eq_ok {α β ε : Type} {f : α → Except ε β} {as : List α} {bs : List β} :
    as.mapM f = .ok bs ↔ List.Forall₂ (fun a b => f a = .ok b) as bs := by
  induction as generalizing bs with
  | nil => simp [pure, Except.pure, eq_comm]
  | cons a as ih =>
    rw [List.mapM_cons, List.forall₂_cons_left_iff]
    cases ha : f a with
    | error e => simp [Bind.bind, Except.bind]
    | ok b =>
      cases has : as.mapM f with
      | error e =>
        have hnone : ∀ bs, ¬ List.Forall₂ (fun a b => f a = .ok b) as bs := by
          intro bs hbs
          cases has.symm.trans (ih.mpr hbs)
        simp [Bind.bind, Except.bind, hnone]
      | ok bs' =>
        have hall := ih.mp has
        constructor
        · rintro h
          cases h
          exact ⟨b, bs', rfl, hall, rfl⟩
        · rintro ⟨b', bs'', hb, hbs, rfl⟩
          cases hb
          cases has.symm.trans (ih.mpr hbs)
          rfl

theorem mapM_map_result {α β γ ε : Type} (f : α → Except ε β) (g : β → γ) (as : List α) :
    as.mapM (fun a => (f a).map g) = (as.mapM f).map (List.map g) := by
  induction as with
  | nil => rfl
  | cons a as ih =>
    rw [List.mapM_cons, List.mapM_cons, ih]
    cases f a with
    | error e => rfl
    | ok b => cases as.mapM f <;> rfl

theorem mapM_eq_error {α β ε : Type} {f : α → Except ε β} {as : List α} {e : ε}
    (h : as.mapM f = .error e) : ∃ a ∈ as, f a = .error e := by
  induction as with
  | nil => simp [pure, Except.pure] at h
  | cons a as ih =>
    rw [List.mapM_cons, bind_eq_error] at h
    rcases h with ha | ⟨b, -, hrest⟩
    · exact ⟨a, List.mem_cons_self, ha⟩
    · rw [bind_eq_error] at hrest
      rcases hrest with has | ⟨bs, -, hbs⟩
      · obtain ⟨a', ha', h'⟩ := ih has
        exact ⟨a', List.mem_cons_of_mem a ha', h'⟩
      · cases hbs

theorem mapM_append_eq_error {α β ε : Type} {f : α → Except ε β} {front back : List α} {a : α}
    {e : ε} (hfront : ∀ b ∈ front, ∃ c, f b = .ok c) (ha : f a = .error e) :
    (front ++ a :: back).mapM f = .error e := by
  induction front with
  | nil =>
    rw [List.nil_append, List.mapM_cons, ha]
    rfl
  | cons b front ih =>
    obtain ⟨c, hc⟩ := hfront b List.mem_cons_self
    have hrest := ih fun b' hb' => hfront b' (List.mem_cons_of_mem b hb')
    rw [List.cons_append, List.mapM_cons, hc, hrest]
    rfl

theorem foldl_replicate_of_eq {α β : Type} {f : α → β → α} {x : α} {b : β} (h : f x b = x)
    (n : Nat) : (List.replicate n b).foldl f x = x := by
  induction n with
  | zero => rfl
  | succ n ih => rw [List.replicate_succ, List.foldl_cons, h, ih]

theorem keys_of_forall₂ {α β γ : Type} {ps : List (γ × α)} {qs : List (γ × β)}
    (h : List.Forall₂ (fun p q => p.1 = q.1) ps qs) : ps.map (·.1) = qs.map (·.1) := by
  induction h with
  | nil => rfl
  | cons h _ ih => rw [List.map_cons, List.map_cons, h, ih]

theorem map_findSome? {α β γ : Type} (f : α → Option β) (g : β → γ) (xs : List α) :
    (xs.findSome? f).map g = xs.findSome? fun x => (f x).map g := by
  induction xs with
  | nil => rfl
  | cons x xs ih => cases hx : f x <;> simp [hx, ih]

theorem getElem?_length_takeWhile {α : Type} (p : α → Bool) (xs : List α) :
    xs[(xs.takeWhile p).length]? = (xs.dropWhile p).head? := by
  induction xs with
  | nil => rfl
  | cons x xs ih => by_cases hx : p x = true <;> simp [hx, ih]

/-- Stretches of what satisfies `p`, with something else behind them, are the same where the lists
are. -/
theorem append_inj_of_heads {α : Type} {p : α → Bool} {xs ys zs ws : List α}
    (hxs : ∀ x ∈ xs, p x = true) (hys : ∀ y ∈ ys, p y = true)
    (hzs : ∀ z ∈ zs.head?, p z = false) (hws : ∀ w ∈ ws.head?, p w = false)
    (h : xs ++ zs = ys ++ ws) : xs = ys ∧ zs = ws := by
  have hstops : ∀ {vs : List α}, (∀ v ∈ vs.head?, p v = false) → vs.takeWhile p = [] := by
    intro vs hvs
    cases vs with
    | nil => rfl
    | cons v vs => simp [hvs v rfl]
  have htaken := congrArg (List.takeWhile p) h
  rw [List.takeWhile_append_of_pos hxs, List.takeWhile_append_of_pos hys, hstops hzs, hstops hws,
    List.append_nil, List.append_nil] at htaken
  rw [htaken] at h
  exact ⟨htaken, List.append_cancel_left h⟩

end PromptWeave
