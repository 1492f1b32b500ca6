import Mathlib.Data.List.TakeWhile
import PromptWeave.Cursor
import PromptWeave.Proofs.Lists

/-! Cursors that stay in the text.
A read succeeds just where there is something to read. A loop has no fault if each of its turns keeps an
invariant and leaves less to do. -/
namespace PromptWeave
namespace Cursor

theorem ok_bind {α β : Type} (a : α) (f : α → Except Fault β) : (Except.ok a >>= f) = f a := rfl

theorem pure_eq {α : Type} (a : α) : (pure a : Except Fault α) = .ok a := rfl

/-! ### Places and stretches -/

/-- A text is short enough for loops of `limit` turns and for a cursor that jumps behind its end. -/
structure Fits (limit : Nat) (cs : List Char) : Prop where
  turns : cs.length < limit
  word : cs.length + 2 ≤ largest

theorem Fits.of_le {limit : Nat} {cs ds : List Char} (h : Fits limit cs)
    (hle : ds.length ≤ cs.length) : Fits limit ds :=
  ⟨Nat.lt_of_le_of_lt hle h.turns, Nat.le_trans (Nat.add_le_add_right hle 2) h.word⟩

theorem Fits.plus_eq {limit : Nat} {cs : List Char} (h : Fits limit cs) {a b : Nat}
    (hab : a + b ≤ cs.length + 2) : plus a b = .ok (a + b) := if_pos (Nat.le_trans hab h.word)

theorem Fits.next {limit place : Nat} {cs : List Char} (h : Fits limit cs)
    (hplace : place < cs.length) : plus place 1 = .ok (place + 1) := h.plus_eq (by omega)

theorem Fits.jump {limit place : Nat} {cs : List Char} (h : Fits limit cs)
    (hplace : place < cs.length) : plus place 2 = .ok (place + 2) := h.plus_eq (by omega)

theorem character_eq_ok {cs : List Char} {place : Nat} {c : Char} :
    character cs place = .ok c ↔ cs[place]? = some c := by
  rw [character]
  cases cs[place]? with
  | none => simp [throw, throwThe, MonadExceptOf.throw]
  | some d => simp [pure_eq]

theorem stretch_eq_ok {cs ds : List Char} {start stop : Nat} :
    stretch cs start stop = .ok ds ↔
      (start ≤ stop ∧ stop ≤ cs.length) ∧ (cs.drop start).take (stop - start) = ds := by
  rw [stretch]
  split_ifs with h
  · simp [pure_eq, h]
  · simp [h]

theorem at_end_or_character (cs : List Char) (place : Nat) :
    (cs.length ≤ place ∧ cs.drop place = []) ∨
      ∃ c, place < cs.length ∧ cs[place]? = some c ∧ cs.drop place = c :: cs.drop (place + 1) := by
  rcases Nat.lt_or_ge place cs.length with hlt | hge
  · exact Or.inr ⟨cs[place], hlt, List.getElem?_eq_getElem hlt, List.drop_eq_getElem_cons hlt⟩
  · exact Or.inl ⟨hge, List.drop_eq_nil_of_le hge⟩

/-! ### Loops -/

/-- A turn that is the last one gives the answer. Any other is taken while the cursor is in the text,
moves it on, keeps the invariant and does not change the answer. -/
def Leads {σ α : Type} (cs : List Char) (place : σ → Nat) (invariant : σ → Prop) (answer : σ → α)
    (s : σ) : Except Fault (Turn σ α) → Prop
  | .ok (.next s') =>
    place s < cs.length ∧ place s < place s' ∧ invariant s' ∧ answer s' = answer s
  | .ok (.done a) => a = answer s
  | .error _ => False

/-- A loop whose turns lead to its answer has no fault. -/
theorem turns_eq {σ α : Type} {cs : List Char} {turn : σ → Except Fault (Turn σ α)}
    {place : σ → Nat} {invariant : σ → Prop} {answer : σ → α}
    (hturn : ∀ s, invariant s → Leads cs place invariant answer s (turn s)) {limit : Nat} {s : σ}
    (hs : invariant s) (hlimit : cs.length - place s < limit) :
    turns turn limit s = .ok (answer s) := by
  induction limit generalizing s with
  | zero => omega
  | succ n ih =>
    have hlead := hturn s hs
    rw [turns]
    cases hs' : turn s with
    | error f =>
      rw [hs'] at hlead
      exact hlead.elim
    | ok t =>
      rw [hs'] at hlead
      rw [ok_bind]
      cases t with
      | next s' =>
        obtain ⟨hinside, hmoved, hinvariant, hanswer⟩ := hlead
        rw [← hanswer]
        exact ih hinvariant (by omega)
      | done a =>
        have hanswer : a = answer s := hlead
        rw [hanswer]
        rfl

theorem Fits.turns_eq {σ α : Type} {limit : Nat} {cs : List Char} (h : Fits limit cs)
    {turn : σ → Except Fault (Turn σ α)} {place : σ → Nat} {invariant : σ → Prop} {answer : σ → α}
    (hturn : ∀ s, invariant s → Leads cs place invariant answer s (turn s)) {s : σ}
    (hs : invariant s) : Cursor.turns turn limit s = .ok (answer s) :=
  Cursor.turns_eq hturn hs (Nat.lt_of_le_of_lt (Nat.sub_le _ _) h.turns)

end Cursor
end PromptWeave
