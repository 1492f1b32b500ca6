/-! Reading a text with a cursor.
A place or a stretch that the text does not have is a fault, and so is a number that does not fit into a
machine word, and a loop that is not done after its turns. -/
namespace PromptWeave
namespace Cursor

/-- What stops a reader. -/
inductive Fault
  | noCharacter (place : Nat)
  | noStretch (start stop : Nat)
  | tooLarge (number : Nat)
  | unfinished
deriving DecidableEq, Repr

/-- The character at a place. -/
def character (cs : List Char) (place : Nat) : Except Fault Char :=
  match cs[place]? with
  | some c => return c
  | none => throw (.noCharacter place)

/-- What stands from `start` up to `stop`. -/
def stretch (cs : List Char) (start stop : Nat) : Except Fault (List Char) :=
  if start ≤ stop ∧ stop ≤ cs.length then return (cs.drop start).take (stop - start)
  else throw (.noStretch start stop)

/-- The largest number in a machine word of two bytes, the shortest there is. -/
def largest : Nat := 65535

def plus (a b : Nat) : Except Fault Nat :=
  if a + b ≤ largest then return a + b else throw (.tooLarge (a + b))

/-- A turn of a loop goes on from a state, or it is the last one and answers. -/
inductive Turn (σ α : Type)
  | next (s : σ)
  | done (a : α)

/-- A loop of at most so many turns. -/
def turns {σ α : Type} (turn : σ → Except Fault (Turn σ α)) : Nat → σ → Except Fault α
  | 0, _ => throw .unfinished
  | n + 1, s => do
    match ← turn s with
    | .next s => turns turn n s
    | .done a => return a

end Cursor
end PromptWeave
