import PromptWeave.Parameters
import PromptWeave.Proofs.Placeholder

/-! What becomes of placeholders.
Every placeholder of a text is replaced once. Two layers of values that are put in one after the
other do what both at the same time do, unless what the first ones put in makes new placeholders
for the second. -/
namespace PromptWeave
namespace Parameters

open Placeholder (Piece SpelledOut pieces)

def value (params : Option Parameters) (path : List Char) : Option (List Char) :=
  params.bind fun params => (lookup? params path).map display

/-- The texts of two layers: those of the first where it has any. -/
def first (top below : List Char → Option (List Char)) (path : List Char) : Option (List Char) :=
  (top path).or (below path)

/-- The text in place of a piece; without one a placeholder stays. -/
def fillPiece (value : List Char → Option (List Char)) : Piece → List Char
  | .plain c => [c]
  | .hole p => (value p.path).getD p.source

/-- A text in which every placeholder is replaced, once and all at the same time. -/
def fill (value : List Char → Option (List Char)) (cs : List Char) : List Char :=
  (pieces cs).flatMap (fillPiece value)

theorem expand_eq (params : Parameters) : expand params = fillPiece (value (some params)) := by
  funext x
  cases x with
  | plain c => rfl
  | hole p =>
    simp only [expand, fillPiece, value, Option.bind_some]
    cases lookup? params p.path <;> rfl

theorem fillPiece_none : fillPiece (fun _ => none) = Piece.source := by
  funext x
  cases x <;> rfl

@[simp] theorem fill_none (cs : List Char) : fill (fun _ => none) cs = cs := by
  rw [fill, fillPiece_none, Placeholder.flatMap_source_pieces]

theorem value_of_isEmpty {params : Parameters} (h : params.isEmpty = true) :
    value (some params) = fun _ => none := by
  have hfind : ∀ key, params.find? key = none := by
    intro key
    rw [Dict.find?, List.isEmpty_iff.mp h, Assoc.find?]
  funext path
  rw [value, Option.bind_some, lookup?]
  split <;> simp [hfind]

/-- The texts that are passed over hold nothing to replace. -/
theorem substituteChars_eq_fill (params : Parameters) (cs : List Char) :
    substituteChars params cs = fill (value (some params)) cs := by
  rw [substituteChars]
  split_ifs with hnone
  · rcases Bool.or_eq_true_iff.mp hnone with hempty | hopens
    · rw [value_of_isEmpty hempty, fill_none]
    · rw [fill, Placeholder.pieces_of_not_opens (by simpa using hopens), List.flatMap_map]
      simp [fillPiece]
  · rw [expand_eq, fill]

/-- A text in which each placeholder that has a value is replaced by it, and no other. -/
def filled (params : Parameters) (text : String) : String :=
  String.ofList (fill (value (some params)) text.toList)

theorem substitute_eq_filled (params : Parameters) : params.substitute = filled params := by
  funext text
  rw [substitute, substituteChars_eq_fill, filled]

theorem toList_substitute? (params : Option Parameters) (text : String) :
    (substitute? params text).toList = fill (value params) text.toList := by
  cases params with
  | none => exact (fill_none text.toList).symm
  | some params =>
    rw [substitute?, substitute, String.toList_ofList, substituteChars_eq_fill]

/-! ### One layer after the other -/

/-- The pieces left of a piece once values are put in, if none of them makes a new placeholder. -/
def settle (value : List Char → Option (List Char)) : Piece → List Piece
  | .plain c => [.plain c]
  | .hole p => match value p.path with
    | some text => text.map Piece.plain
    | none => [.hole p]

/-- The values put into a text leave no placeholders but those that have no value. -/
def Settles (value : List Char → Option (List Char)) (cs : List Char) : Prop :=
  pieces (fill value cs) = (pieces cs).flatMap (settle value)

instance (value : List Char → Option (List Char)) (cs : List Char) : Decidable (Settles value cs) :=
  inferInstanceAs (Decidable (_ = _))

theorem flatMap_source_settle (value : List Char → Option (List Char)) (x : Piece) :
    (settle value x).flatMap Piece.source = fillPiece value x := by
  cases x with
  | plain c => rfl
  | hole p =>
    cases hvalue : value p.path <;>
      simp [settle, fillPiece, hvalue, Piece.source, List.flatMap_map]

theorem flatMap_fillPiece_settle (top below : List Char → Option (List Char)) (x : Piece) :
    (settle top x).flatMap (fillPiece below) = fillPiece (first top below) x := by
  cases x with
  | plain c => rfl
  | hole p =>
    cases hvalue : top p.path <;> simp [settle, fillPiece, first, hvalue, List.flatMap_map]

theorem spelledOut_fill (value : List Char → Option (List Char)) (cs : List Char) :
    SpelledOut (pieces (fill value cs)) ((pieces cs).flatMap (settle value)) := by
  have hsource : ((pieces cs).flatMap (settle value)).flatMap Piece.source = fill value cs := by
    simp only [List.flatMap_assoc, flatMap_source_settle, fill]
  rw [← hsource]
  refine Placeholder.spelledOut_pieces fun p hp => ?_
  obtain ⟨x, hx, hp⟩ := List.mem_flatMap.mp hp
  cases x with
  | plain c => simp [settle] at hp
  | hole q =>
    cases hvalue : value q.path with
    | some text => simp [settle, hvalue] at hp
    | none =>
      simp only [settle, hvalue, List.mem_singleton] at hp
      cases hp
      exact Placeholder.sound_of_mem_pieces hx

def nested (segments : List (List Char)) (v : Json) : Json :=
  segments.foldr (fun segment v => .obj [(String.ofList segment, v)]) v

theorem foldlM_step?_nested (segments : List (List Char)) (v : Json) :
    segments.foldlM step? (nested segments v) = some v := by
  induction segments with
  | nil => rfl
  | cons segment segments ih =>
    rw [nested, List.foldr_cons, ← nested, List.foldlM_cons]
    simpa [step?, Assoc.find?] using ih

theorem exists_value (path : List Char) (text : String) :
    ∃ params, value (some params) path = some text.toList := by
  cases hsegments : Text.splitAt '.' path with
  | nil => exact absurd hsegments (Text.splitAt_ne_nil '.' path)
  | cons segment more =>
    refine ⟨Dict.empty.insert (String.ofList segment) (nested more (.str text)), ?_⟩
    have hfind : (Dict.empty.insert (String.ofList segment) (nested more (.str text))).find?
        (String.ofList segment) = some (nested more (.str text)) := by
      simp [Dict.find?, Dict.insert, Dict.empty, Assoc.insert, Assoc.find?]
    simp [value, lookup?, hsegments, hfind, foldlM_step?_nested, display]

/-- Placeholders that are put together show when they are given a value. -/
theorem eq_of_spelledOut {ps qs : List Piece} (h : SpelledOut ps qs)
    (hfill : ∀ params, ps.flatMap (fillPiece (value (some params))) =
      qs.flatMap (fillPiece (value (some params)))) : ps = qs := by
  induction h with
  | nil => rfl
  | same x h ih =>
    simp only [List.flatMap_cons, List.append_cancel_left_eq] at hfill
    rw [ih hfill]
  | opened p h ih =>
    obtain ⟨params, hvalue⟩ := exists_value p.path "x"
    have hx := hfill params
    simp [fillPiece, hvalue, Placeholder.source_eq] at hx

/-- Two layers of values in a row do what both at the same time do, whatever the second layer is,
exactly if the first settles the text. -/
theorem fill_fill_iff (top : List Char → Option (List Char)) (cs : List Char) :
    (∀ params, fill (value (some params)) (fill top cs) =
      fill (first top (value (some params))) cs) ↔ Settles top cs := by
  have hboth : ∀ below, fill (first top below) cs =
      ((pieces cs).flatMap (settle top)).flatMap (fillPiece below) := by
    intro below
    simp only [fill, List.flatMap_assoc, flatMap_fillPiece_settle]
  constructor
  · intro h
    refine eq_of_spelledOut (spelledOut_fill top cs) fun params => ?_
    rw [← hboth, ← h params]
    rfl
  · intro h params
    rw [hboth, ← h, fill]

/-- Braces around a placeholder make a new one of its value. -/
example : ¬ Settles (value (some (Dict.empty.insert "a" (.str "b"))))
    "\x7b\x7b\x7b\x7ba\x7d\x7d\x7d\x7d".toList := by decide

end Parameters
end PromptWeave
