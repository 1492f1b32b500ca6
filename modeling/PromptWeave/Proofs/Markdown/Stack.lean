import PromptWeave.Proofs.Markdown.Kept

/-! Reading a document with a stack of open sections.
A document can be read line by line: every block goes into the innermost open section as soon as it is
complete, with the parameters put in, and a heading first closes the sections that are not less deep.
The section that comes out is that of the outline, which takes the parameters only at the end. -/
namespace PromptWeave
namespace Markdown

/-- The sections that are open, the innermost first; the outermost is the document. -/
inductive Opened
  | document (s : Section)
  | inside (depth : Nat) (s : Section) (outer : Opened)

namespace Opened

def innermost : Opened → Section
  | .document s => s
  | .inside _ s _ => s

def add (input : SectionInput) : Opened → Opened
  | .document s => .document (s.append input)
  | .inside depth s outer => .inside depth (s.append input) outer

def count : Opened → Nat
  | .document _ => 0
  | .inside _ _ outer => outer.count + 1

@[simp] theorem count_add (input : SectionInput) (opened : Opened) :
    (opened.add input).count = opened.count := by
  cases opened <;> rfl

/-- Closes the sections that are not less deep; each is added to the one around it. -/
def closeTo (depth : Nat) : Opened → Opened
  | .document s => .document s
  | .inside d s outer =>
    if depth ≤ d then (outer.add (.nested s)).closeTo depth else .inside d s outer
termination_by opened => opened.count
decreasing_by simp [count]

def closeAll : Opened → Section
  | .document s => s
  | .inside _ s outer => (outer.add (.nested s)).closeAll
termination_by opened => opened.count
decreasing_by simp [count]

def put (o : Options) (opened : Opened) : Block → Opened
  | .heading depth title =>
    .inside depth (.titled o.kind (o.parameters.substitute (String.ofList title)))
      (opened.closeTo depth)
  | .paragraph lines | .code lines =>
    opened.add (.text (o.parameters.substitute (String.ofList (Text.unlines lines))))
  | .item t => opened.add (.text (o.parameters.substitute (String.ofList t)))

end Opened

/-- Reads the lines that are left, with all that they complete put in at once. -/
def readFrom (o : Options) (opened : Opened) (p : Pending) : List (List Char) → Section
  | [] => (p.finish.foldl (Opened.put o) opened).closeAll
  | line :: rest => readFrom o ((p.step line).1.foldl (Opened.put o) opened) (p.step line).2 rest

def readAll (o : Options) (document : String) : Section :=
  unwrap (readFrom o (.document (Section.empty o.kind)) .nothing (Text.lines document.toList))

namespace Opened

/-! ### Sections that add nothing to what is put in -/

/-- Texts that are added to the section become leaves of the kind and nothing else. -/
structure Neutral (kind : Kind) (s : Section) : Prop where
  kind : s.head.kind = kind
  itemWeight : s.head.itemWeight = none
  parameters : s.head.parameters = none

def AllNeutral (kind : Kind) : Opened → Prop
  | .document s => Neutral kind s
  | .inside _ s outer => Neutral kind s ∧ outer.AllNeutral kind

variable {kind : Kind} {opened : Opened}

theorem AllNeutral.innermost (h : opened.AllNeutral kind) : Neutral kind opened.innermost := by
  cases opened with
  | document s => exact h
  | inside depth s outer => exact h.1

theorem AllNeutral.add (input : SectionInput) (h : opened.AllNeutral kind) :
    (opened.add input).AllNeutral kind := by
  cases opened with
  | document s => exact ⟨h.kind, h.itemWeight, h.parameters⟩
  | inside depth s outer => exact ⟨⟨h.1.kind, h.1.itemWeight, h.1.parameters⟩, h.2⟩

theorem AllNeutral.closeTo (depth : Nat) (h : opened.AllNeutral kind) :
    (opened.closeTo depth).AllNeutral kind := by
  fun_induction Opened.closeTo depth opened with
  | case1 s => exact h
  | case2 d s outer hd ih => exact ih (h.2.add _)
  | case3 d s outer hd => exact h

theorem AllNeutral.put {o : Options} (b : Block) (h : opened.AllNeutral o.kind) :
    (opened.put o b).AllNeutral o.kind := by
  cases b with
  | heading depth title => exact ⟨⟨rfl, rfl, rfl⟩, h.closeTo depth⟩
  | _ => exact h.add _

theorem itemOf_text {s : Section} (h : Neutral kind s) (text : String) :
    s.itemOf .none (.text text) = .leaf (Leaf.ofText kind text) := by
  simp [Section.itemOf, AddOptions.none, h.kind, h.itemWeight, h.parameters, Leaf.ofText]

theorem itemOf_nested (s t : Section) : s.itemOf .none (.nested t) = t.toItem := by
  simp [Section.itemOf, AddOptions.none, Section.toItem]

/-! ### What the open sections become -/

/-- The document when `items` and then all that is in `es` are still to come. -/
def filled (o : Options) : Opened → List SectionItem → List Outline → Section
  | .document s, items, es => { s with items := s.items ++ items ++ toItems o es }
  | .inside depth s outer, items, es =>
    filled o outer
      [.branch s.head (s.items ++ items ++ toItems o (es.takeWhile (Outline.under depth)))]
      (es.dropWhile (Outline.under depth))

variable (o : Options)

theorem filled_add (input : SectionInput) (es : List Outline) :
    filled o (opened.add input) [] es =
      filled o opened [opened.innermost.itemOf .none input] es := by
  cases opened <;> simp [add, filled, innermost, Section.append, Section.appendWith]

/-- Whether an entry goes into the innermost section. -/
def Takes (e : Outline) : Opened → Prop
  | .document _ => True
  | .inside depth _ _ => Outline.under depth e = true

theorem filled_cons {e : Outline} (h : opened.Takes e) (es : List Outline) :
    filled o opened [] (e :: es) = filled o opened [toItem o e] es := by
  cases opened with
  | document s => simp [filled, toItems]
  | inside depth s outer =>
    have hunder : Outline.under depth e = true := h
    simp [filled, toItems, hunder]

/-- A heading closes what it does not go into. -/
theorem filled_closeTo (depth : Nat) (title : List Char) (inner es : List Outline) :
    filled o (opened.closeTo depth) [] (.headed depth title inner :: es) =
      filled o opened [] (.headed depth title inner :: es) := by
  fun_induction Opened.closeTo depth opened with
  | case1 s => rfl
  | case2 d s outer hd ih =>
    have hnot : Outline.under d (.headed depth title inner) = false := by
      simpa [Outline.under] using hd
    rw [ih, filled_add, itemOf_nested]
    simp [filled, hnot, toItems, Section.toItem]
  | case3 d s outer hd => rfl

theorem takes_closeTo (depth : Nat) (title : List Char) (inner : List Outline) (opened : Opened) :
    (opened.closeTo depth).Takes (.headed depth title inner) := by
  fun_induction Opened.closeTo depth opened with
  | case1 s => trivial
  | case2 d s outer hd ih => exact ih
  | case3 d s outer hd => simpa [Takes, Outline.under] using hd

theorem filled_put (h : opened.AllNeutral o.kind) (b : Block) (es : List Outline) :
    filled o (opened.put o b) [] es = filled o opened [] (Outline.place es b) := by
  cases b with
  | heading depth title =>
    rw [Outline.place, ← filled_closeTo, filled_cons o (takes_closeTo depth title _ opened)]
    simp [put, filled, toItem, Section.titled]
  | _ =>
    have hunder : ∀ t, opened.Takes (.text t) := by
      intro t
      cases opened <;> simp [Takes, Outline.under]
    rw [put, filled_add, itemOf_text h.innermost, Outline.place, filled_cons o (hunder _), toItem]

theorem AllNeutral.foldl (h : opened.AllNeutral o.kind) (bs : List Block) :
    (bs.foldl (Opened.put o) opened).AllNeutral o.kind := by
  induction bs generalizing opened with
  | nil => exact h
  | cons b bs ih => exact ih (h.put b)

theorem filled_foldl (h : opened.AllNeutral o.kind) (bs cs : List Block) :
    filled o (bs.foldl (put o) opened) [] (Outline.ofBlocks cs) =
      filled o opened [] (Outline.ofBlocks (bs ++ cs)) := by
  induction bs generalizing opened with
  | nil => rfl
  | cons b bs ih =>
    rw [List.foldl_cons, ih (h.put b), filled_put o h, List.cons_append, Outline.ofBlocks_cons]

theorem closeAll_eq (opened : Opened) : opened.closeAll = filled o opened [] [] := by
  fun_induction Opened.closeAll opened with
  | case1 s => simp [filled, toItems]
  | case2 d s outer ih =>
    rw [ih, filled_add, itemOf_nested]
    simp [filled, toItems, Section.toItem]

end Opened

theorem readFrom_eq (o : Options) {opened : Opened} (h : opened.AllNeutral o.kind) (p : Pending)
    (lines : List (List Char)) : readFrom o opened p lines =
      opened.filled o [] (Outline.ofBlocks (blocksFrom p lines)) := by
  induction lines generalizing opened p with
  | nil =>
    have hdone := Opened.filled_foldl o h p.finish []
    rw [List.append_nil] at hdone
    rw [readFrom, Opened.closeAll_eq o, blocksFrom_nil, ← hdone]
    rfl
  | cons line rest ih =>
    rw [readFrom, ih (h.foldl o _), Opened.filled_foldl o h, blocksFrom_cons]

/-- Reading line by line gives the section of the outline. -/
theorem readAll_eq (o : Options) (document : String) : readAll o document = parse o document := by
  have hneutral : (Opened.document (Section.empty o.kind)).AllNeutral o.kind := ⟨rfl, rfl, rfl⟩
  rw [readAll, readFrom_eq o hneutral]
  rfl

end Markdown
end PromptWeave
