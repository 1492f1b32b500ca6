import Mathlib.Tactic.SplitIfs
import PromptWeave.Files.Tree
import PromptWeave.Proofs.Files.Steps

/-! Walks through a file tree.
A walk along two lists of parts is a walk along the first and then one along the second. Empty parts
and single dots in front of a part change nothing, and where only directories stand a walk without
steps to the parent ends at none but directories. -/
namespace PromptWeave
namespace FileTree

/-- How a walk goes on at a link when at most `links` links are followed. -/
def jump (t : FileTree) : Nat → List String → Path → List String → Except OsError (List String)
  | 0 => fun _ _ _ => .error .tooManyLinks
  | links + 1 => fun place target more =>
    t.walk links (if target.isAbsolute then [] else place) (partsOf target ++ more)

theorem walk_eq (t : FileTree) (links : Nat) : t.walk links = t.walkWith (t.jump links) := by
  cases links <;> rfl

@[simp] theorem walk_nil (t : FileTree) (links : Nat) (place : List String) :
    t.walk links place [] = .ok place := by
  rw [walk_eq]
  rfl

theorem walk_cons (t : FileTree) (links : Nat) (place : List String) (part : String)
    (more : List String) : t.walk links place (part :: more) = match t.entry? place with
      | some .directory =>
        if part = "" ∨ part = "." then t.walk links place more
        else if part = ".." then t.walk links place.dropLast more
        else if nameLimit < part.utf8ByteSize then .error tooLong
        else match t.entry? (place ++ [part]) with
          | some (.link target) => t.jump links place target more
          | some _ => t.walk links (place ++ [part]) more
          | none => .error .notFound
      | some _ => .error .notADirectory
      | none => .error .notFound := by
  rw [walk_eq]
  rfl

/-! ### Walks in two parts -/

/-- A walk that, whatever follows, fails early or goes on from one place. -/
def Cut (t : FileTree) (w : List String → Except OsError (List String)) : Prop :=
  (∃ e, ∀ qs, w qs = .error e) ∨ ∃ r left, ∀ qs, w qs = t.walk left r qs

theorem cut_of_jump {t : FileTree} {links : Nat}
    (hjump : ∀ place target more, t.Cut fun qs => t.jump links place target (more ++ qs))
    (place ps : List String) : t.Cut fun qs => t.walk links place (ps ++ qs) := by
  induction ps generalizing place with
  | nil => exact Or.inr ⟨place, links, fun qs => rfl⟩
  | cons part more ih =>
    simp only [List.cons_append, walk_cons]
    split
    · split_ifs
      · exact ih place
      · exact ih place.dropLast
      · exact Or.inl ⟨_, fun qs => rfl⟩
      · split
        · exact hjump _ _ more
        · exact ih (place ++ [part])
        · exact Or.inl ⟨_, fun qs => rfl⟩
    · exact Or.inl ⟨_, fun qs => rfl⟩
    · exact Or.inl ⟨_, fun qs => rfl⟩

theorem cut_walk (t : FileTree) (links : Nat) (place ps : List String) :
    t.Cut fun qs => t.walk links place (ps ++ qs) := by
  induction links generalizing place ps with
  | zero => exact cut_of_jump (fun _ _ _ => Or.inl ⟨_, fun qs => rfl⟩) place ps
  | succ links ih =>
    refine cut_of_jump (fun place target more => ?_) place ps
    simp only [jump, ← List.append_assoc]
    exact ih _ _

/-! ### Parts that lead nowhere -/

/-- The second list has empty parts and single dots in front of the parts of the first. -/
inductive Pads : List String → List String → Prop
  | nil : Pads [] []
  | step {ps qs : List String} (part : String) (h : Pads ps qs) : Pads (part :: ps) (part :: qs)
  | pass {ps qs : List String} {part : String} (hpart : part = "" ∨ part = ".") (next : String)
      (h : Pads (next :: ps) qs) : Pads (next :: ps) (part :: qs)

theorem Pads.refl (ps : List String) : Pads ps ps := by
  induction ps with
  | nil => exact .nil
  | cons part ps ih => exact .step part ih

theorem Pads.append_left {ps qs : List String} (h : Pads ps qs) (front : List String) :
    Pads (front ++ ps) (front ++ qs) := by
  induction front with
  | nil => exact h
  | cons part front ih => exact .step part ih

theorem walk_pads_of_jump {t : FileTree} {links : Nat} {ps qs : List String} (h : Pads ps qs)
    (hjump : ∀ {ps qs}, Pads ps qs → ∀ place target,
      t.jump links place target ps = t.jump links place target qs) (place : List String) :
    t.walk links place ps = t.walk links place qs := by
  induction h generalizing place with
  | nil => rfl
  | step part h ih => simp only [walk_cons, ih, hjump h]
  | @pass ps qs part hpart next h ih =>
    -- both walks first look whether a directory stands at the place
    rw [walk_cons t links place part qs]
    split
    next hplace => rw [if_pos hpart, ih place]
    next hplace => rw [walk_cons, hplace]; simp_all
    next hplace => rw [walk_cons, hplace]

theorem walk_pads {t : FileTree} {links : Nat} {ps qs : List String} (h : Pads ps qs)
    (place : List String) : t.walk links place ps = t.walk links place qs := by
  induction links generalizing ps qs place with
  | zero => exact walk_pads_of_jump h (fun _ _ _ => rfl) place
  | succ links ih =>
    refine walk_pads_of_jump h (fun h place target => ?_) place
    exact ih (h.append_left (partsOf target)) _

end FileTree
end PromptWeave
