import PromptWeave.Proofs.Layering
import PromptWeave.Proofs.Precedence
import PromptWeave.Section.Edit

/-! Sections that are edited.
To the calls that edit a section its items are a plain list. A call for a place that the list does
not have changes nothing, and no call changes anything but the items. -/
namespace PromptWeave

/-! ### Edits of a list -/

inductive ListEdit (α : Type)
  | append (xs : List α)
  | prepend (xs : List α)
  | insert (index : Nat) (x : α)
  | replace (index : Nat) (x : α)
  | remove (index : Nat)

namespace ListEdit

variable {α : Type}

/-- The edited list, or the place that the list does not have. What is inserted may come behind all
else. -/
def applied (xs : List α) : ListEdit α → Except Nat (List α)
  | append ys => .ok (xs ++ ys)
  | prepend ys => .ok (ys ++ xs)
  | insert index y => if index ≤ xs.length then .ok (xs.insertIdx index y) else .error index
  | replace index y => if index < xs.length then .ok (xs.set index y) else .error index
  | remove index => if index < xs.length then .ok (xs.eraseIdx index) else .error index

def step (xs : List α) (e : ListEdit α) : List α :=
  match e.applied xs with
  | .ok ys => ys
  | .error _ => xs

end ListEdit

theorem insertIdx_eq_append {α : Type} {xs : List α} {index : Nat} (h : index ≤ xs.length) (x : α) :
    xs.insertIdx index x = xs.take index ++ x :: xs.drop index := by
  induction index generalizing xs with
  | zero => rfl
  | succ index ih =>
    cases xs with
    | nil => simp at h
    | cons y ys =>
      have hys : index ≤ ys.length := by simpa using h
      rw [List.insertIdx_succ_cons, ih hys]
      rfl

/-! ### Two layers of parameters -/

namespace Parameters

/-- The text that two layers have for a path. That of the upper one counts if it has the key that
the path begins with. -/
def layered (top below : Option Parameters) (path : List Char) : Option (List Char) :=
  if (top.bind (·.find? (keyOf path))).isSome then value top path else value below path

theorem value_layer (top below : Option Parameters) :
    value (layer top below) = layered top below := by
  funext path
  cases top with
  | none => rw [layer_none_left]; rfl
  | some top =>
    cases below with
    | some below => exact value_onto top below path
    | none =>
      rw [layer_none_right, layered]
      by_cases hkey : (top.find? (keyOf path)).isSome
      · exact (if_pos hkey).symm
      · have hnone : top.find? (keyOf path) = none := by simpa using hkey
        rw [Option.bind_some, if_neg hkey, value_of_find?_none hnone]
        rfl

end Parameters

namespace Section

open Parameters

/-! ### What is stored -/

/-- What is stored of an input in a section with the head. A text takes the kind of the section, its
weight for items and its parameters; what a call asks for comes before them, and also before the
weight that a leaf or a section has. -/
inductive Stored (head : SectionHead) (options : AddOptions) : SectionInput → SectionItem → Prop
  | text {text : String} {l : Leaf} (kind : l.kind = head.kind)
      (weight : l.weight = options.weight.or head.itemWeight)
      (filled : l.text.toList = fill (layered options.parameters head.parameters) text.toList)
      (title : l.title = none) : Stored head options (.text text) (.leaf l)
  | leaf {given l : Leaf} (kind : l.kind = given.kind)
      (weight : l.weight = options.weight.or given.weight)
      (filled : l.text.toList = fill (layered options.parameters head.parameters) given.text.toList)
      (title : l.title = given.title) : Stored head options (.leaf given) (.leaf l)
  | nested (given : Section) : Stored head options (.nested given)
      (.branch { given.head with weight := options.weight.or given.head.weight } given.items)

/-- Parameters change nothing in a leaf but its text and the parameters that it records. -/
theorem resolved_keeps (params : Option Parameters) (l : Leaf) : (l.resolved params).kind = l.kind ∧
    (l.resolved params).weight = l.weight ∧ (l.resolved params).title = l.title := by
  cases params <;> exact ⟨rfl, rfl, rfl⟩

theorem stored_itemOf (s : Section) (options : AddOptions) (input : SectionInput) :
    Stored s.head options input (s.itemOf options input) := by
  cases input with
  | text text =>
    obtain ⟨hkind, hweight, htitle⟩ := resolved_keeps (layer options.parameters s.head.parameters)
      ⟨s.head.kind, text, options.weight <|> s.head.itemWeight, none, none⟩
    refine .text hkind ?_ ?_ htitle
    · rw [hweight, Option.orElse_eq_orElse, Option.orElse_eq_or]
    · rw [Leaf.toList_text_resolved, value_layer]
  | leaf l =>
    obtain ⟨hkind, hweight, htitle⟩ :=
      resolved_keeps (layer options.parameters s.head.parameters) l
    refine .leaf hkind ?_ ?_ htitle
    · rw [hweight, Option.orElse_eq_orElse, Option.orElse_eq_or]
    · rw [Leaf.toList_text_resolved, value_layer]
  | nested given =>
    rw [itemOf, Option.orElse_eq_orElse, Option.orElse_eq_or]
    exact .nested given

/-! ### One edit -/

def answered (s : Section) (e : Edit) : Except Error Unit × Section := ((call e).run.run s : Id _)

/-- The section behind all calls, those behind one that failed as well. -/
def after (s : Section) (edits : List Edit) : Section := ((calls edits).run s : Id _).2

def Edit.ofItems (s : Section) : Edit → ListEdit SectionItem
  | append options input => .append [s.itemOf options input]
  | prepend options input => .prepend [s.itemOf options input]
  | insert index options input => .insert index (s.itemOf options input)
  | replace index options input => .replace index (s.itemOf options input)
  | remove index => .remove index
  | extendFrom other => .append other.items
  | prependFrom other => .prepend other.items

theorem ofItems_congr {s t : Section} (h : s.head = t.head) : Edit.ofItems s = Edit.ofItems t := by
  funext e
  cases e <;> simp only [Edit.ofItems, itemOf_congr h]

/-- Without the place that it demands a call fails before it changes anything. -/
theorem run_demand (index : Nat) (bound : Section → Nat) (change : Section → Section) (s : Section) :
    ((demand index bound >>= fun _ => modify change : Editing Unit).run.run s : Id _) =
      if index < bound s then (.ok (), change s)
      else (.error (.indexOutOfRange index s.size), s) := by
  change ((if bound s ≤ index then throw (.indexOutOfRange index s.size) else pure () : Editing Unit)
    >>= fun _ => modify change : Editing Unit).run.run s = _
  by_cases h : index < bound s
  · rw [if_pos h, if_neg (Nat.not_le.mpr h)]
    rfl
  · rw [if_neg h, if_pos (Nat.not_lt.mp h)]
    rfl

theorem answered_eq (s : Section) (e : Edit) :
    s.answered e = match (e.ofItems s).applied s.items with
      | .ok items => (.ok (), ⟨s.head, items⟩)
      | .error index => (.error (.indexOutOfRange index s.size), s) := by
  cases e with
  | append options input => rfl
  | prepend options input => rfl
  | extendFrom other => rfl
  | prependFrom other => rfl
  | insert index options input =>
    rw [answered, call, insertWith, run_demand, Edit.ofItems, ListEdit.applied, size]
    by_cases h : index ≤ s.items.length
    · rw [if_pos (Nat.lt_succ_of_le h), if_pos h, insertIdx_eq_append h]
    · rw [if_neg fun hlt => h (Nat.le_of_lt_succ hlt), if_neg h]
  | replace index options input =>
    rw [answered, call, replaceWith, run_demand, Edit.ofItems, ListEdit.applied, size]
    split_ifs <;> rfl
  | remove index =>
    rw [answered, call, remove, run_demand, Edit.ofItems, ListEdit.applied, size]
    split_ifs <;> rfl

theorem answered_of_error {s : Section} {e : Edit} {error : Error}
    (h : (s.answered e).1 = .error error) : (s.answered e).2 = s := by
  rw [answered_eq] at h ⊢
  cases happlied : (e.ofItems s).applied s.items with
  | ok items =>
    rw [happlied] at h
    cases h
  | error index => rfl

theorem answered_items (s : Section) (e : Edit) :
    (s.answered e).2 = ⟨s.head, (e.ofItems s).step s.items⟩ := by
  rw [answered_eq, ListEdit.step]
  cases (e.ofItems s).applied s.items <;> rfl

/-! ### Any edits -/

theorem after_cons (s : Section) (e : Edit) (edits : List Edit) :
    s.after (e :: edits) = (s.answered e).2.after edits := rfl

theorem after_concat (s : Section) (edits : List Edit) (e : Edit) :
    s.after (edits ++ [e]) = ((s.after edits).answered e).2 := by
  induction edits generalizing s with
  | nil => rfl
  | cons d edits ih => rw [List.cons_append, after_cons, after_cons, ih]

theorem after_eq (s : Section) (edits : List Edit) :
    s.after edits = ⟨s.head, (edits.map (Edit.ofItems s)).foldl ListEdit.step s.items⟩ := by
  induction edits generalizing s with
  | nil => rfl
  | cons e edits ih =>
    -- the head stays, so what the later calls do to the items is the same
    have hsame : Edit.ofItems (s.answered e).2 = Edit.ofItems s :=
      ofItems_congr (by rw [answered_items])
    rw [after_cons, ih, hsame, answered_items]
    rfl

/-- What becomes of a section by calls, and what it answers to one more. -/
structure FollowsList (s : Section) (edits : List Edit) : Prop where
  /-- No call changes the title, the kind, the weights or the parameters. -/
  head : (s.after edits).head = s.head
  items : (s.after edits).items = (edits.map (Edit.ofItems s)).foldl ListEdit.step s.items
  /-- A call for a place that is not there fails and leaves the section as it was. -/
  answer (e : Edit) : (s.after edits).answered e =
    match (e.ofItems s).applied (s.after edits).items with
    | .ok items => (.ok (), ⟨s.head, items⟩)
    | .error index => (.error (.indexOutOfRange index (s.after edits).size), s.after edits)
  failed (e : Edit) (error : Error) : ((s.after edits).answered e).1 = .error error →
    s.after (edits ++ [e]) = s.after edits
  stored (options : AddOptions) (input : SectionInput) :
    Stored s.head options input (s.itemOf options input)

/-- Whatever calls are made, the items are a plain list. -/
theorem follows_list (s : Section) (edits : List Edit) : FollowsList s edits := by
  have hafter := after_eq s edits
  have hhead : (s.after edits).head = s.head := by rw [hafter]
  refine
    { head := hhead
      items := by rw [hafter]
      answer := fun e => ?_
      failed := fun e error herror => ?_
      stored := stored_itemOf s }
  · rw [answered_eq, ofItems_congr hhead, hhead]
  · rw [after_concat, answered_of_error herror]

example : ((Section.empty .context).after [.append .none (.text "last"),
    .insert 3 .none (.text "far"), .prepend .none (.text "first"), .remove 2]).texts =
      ["first", "last"] := by decide

end Section
end PromptWeave
