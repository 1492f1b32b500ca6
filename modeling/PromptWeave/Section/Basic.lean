import PromptWeave.Leaf

/-! Sections: trees of leaves.
A section holds leaves and further sections in order. Texts that are added take the section's
kind, weight and parameters; leaves and sections keep their own. -/
namespace PromptWeave

/-- What a section is besides its items. -/
structure SectionHead where
  title : Option String
  kind : Kind
  weight : Option Weight
  itemWeight : Option Weight
  parameters : Option Parameters
deriving DecidableEq

inductive SectionItem
  | leaf (l : Leaf)
  | branch (head : SectionHead) (items : List SectionItem)

structure Section where
  head : SectionHead
  items : List SectionItem

namespace SectionItem

mutual
def decEq : (a b : SectionItem) → Decidable (a = b)
  | .leaf a, .leaf b => if h : a = b then isTrue (by rw [h]) else isFalse (by simp [h])
  | .leaf _, .branch _ _ | .branch _ _, .leaf _ => isFalse (by simp)
  | .branch h a, .branch k b =>
    if hk : h = k then match decEqItems a b with
      | isTrue hi => isTrue (by rw [hk, hi])
      | isFalse hi => isFalse (by simp [hi])
    else isFalse (by simp [hk])
def decEqItems : (a b : List SectionItem) → Decidable (a = b)
  | [], [] => isTrue rfl
  | [], _ :: _ | _ :: _, [] => isFalse (by simp)
  | a :: as, b :: bs => match decEq a b, decEqItems as bs with
    | isTrue h, isTrue h' => isTrue (by rw [h, h'])
    | isFalse h, _ => isFalse (by simp [h])
    | _, isFalse h => isFalse (by simp [h])
end

instance : DecidableEq SectionItem := decEq

def leaf? : SectionItem → Option Leaf
  | .leaf l => some l
  | .branch _ _ => none

def section? : SectionItem → Option Section
  | .leaf _ => none
  | .branch head items => some ⟨head, items⟩

mutual
/-- Whether any leaf has content. -/
def hasContent : SectionItem → Bool
  | .leaf l => l.hasContent
  | .branch _ items => anyContent items
def anyContent : List SectionItem → Bool
  | [] => false
  | i :: is => hasContent i || anyContent is
end

mutual
/-- How many sections stand inside one another. -/
def depth : SectionItem → Nat
  | .leaf _ => 0
  | .branch _ items => depthItems items + 1
def depthItems : List SectionItem → Nat
  | [] => 0
  | i :: is => max (depth i) (depthItems is)
end

end SectionItem

/-- What can be added to a section. -/
inductive SectionInput
  | text (text : String)
  | leaf (l : Leaf)
  | nested (s : Section)

/-- What a single call can ask for. -/
structure AddOptions where
  weight : Option Weight
  parameters : Option Parameters

def AddOptions.none : AddOptions := ⟨.none, .none⟩

namespace Section

instance : DecidableEq Section := fun a b =>
  if h : a.head = b.head ∧ a.items = b.items then
    isTrue (by cases a; cases b; simp_all)
  else isFalse (by rintro rfl; simp at h)

/-- An untitled section without items. -/
def empty (kind : Kind) : Section := ⟨⟨none, kind, none, none, none⟩, []⟩

instance : Inhabited Section := ⟨empty default⟩

/-- A section without items; its title takes its parameters. -/
def create (head : SectionHead) : Section :=
  ⟨{ head with title := head.title.map (Parameters.substitute? head.parameters) }, []⟩

def titled (kind : Kind) (title : String) : Section := ⟨⟨some title, kind, none, none, none⟩, []⟩

def toItem (s : Section) : SectionItem := .branch s.head s.items

@[simp] theorem section?_toItem (s : Section) : s.toItem.section? = some s := rfl

def withTitle (s : Section) (title : String) : Section :=
  { s with head := { s.head with title := some title } }

def withWeight (s : Section) (weight : Weight) : Section :=
  { s with head := { s.head with weight := some weight } }

def withItemWeight (s : Section) (weight : Weight) : Section :=
  { s with head := { s.head with itemWeight := some weight } }

/-- Empty parameters count as none. -/
def withParameters (s : Section) (params : Parameters) : Section :=
  { s with head := { s.head with parameters := if params.isEmpty then none else some params } }

def size (s : Section) : Nat := s.items.length

def isEmpty (s : Section) : Bool := s.items.isEmpty

def depth (s : Section) : Nat := SectionItem.depthItems s.items + 1

def hasContent (s : Section) : Bool := SectionItem.anyContent s.items

/-- The texts of the leaves directly in the section. -/
def texts (s : Section) : List String := (s.items.filterMap SectionItem.leaf?).map Leaf.text

/-- The sections directly in the section. -/
def sections (s : Section) : List Section := s.items.filterMap SectionItem.section?

def find? (s : Section) (title : String) : Option Section :=
  s.sections.find? fun t => t.head.title = some title

/-- The item that an input becomes: the parameters of the call come before the section's. -/
def itemOf (s : Section) (options : AddOptions) : SectionInput → SectionItem
  | .text text =>
    let leaf : Leaf := ⟨s.head.kind, text, options.weight <|> s.head.itemWeight, none, none⟩
    .leaf (leaf.resolved (Parameters.layer options.parameters s.head.parameters))
  | .leaf l =>
    let l := l.resolved (Parameters.layer options.parameters s.head.parameters)
    .leaf { l with weight := options.weight <|> l.weight }
  | .nested t => .branch { t.head with weight := options.weight <|> t.head.weight } t.items

def appendWith (s : Section) (options : AddOptions) (input : SectionInput) : Section :=
  { s with items := s.items ++ [s.itemOf options input] }

def append (s : Section) (input : SectionInput) : Section := s.appendWith .none input

def prependWith (s : Section) (options : AddOptions) (input : SectionInput) : Section :=
  { s with items := s.itemOf options input :: s.items }

/-- Puts the items of another section behind those of this one. -/
def extendFrom (s other : Section) : Section := { s with items := s.items ++ other.items }

/-- Puts the items of another section in front of those of this one. -/
def prependFrom (s other : Section) : Section := { s with items := other.items ++ s.items }

end Section
end PromptWeave
