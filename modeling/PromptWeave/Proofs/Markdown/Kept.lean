import PromptWeave.Markdown.Parser
import PromptWeave.Proofs.Markdown.Lines

/-! What a parsed document holds of its lines.
An outline has the parts of its blocks in the order in which they stand in the document, because a
heading takes in the entries behind it as they are. The titles and texts of the parsed document,
read from its beginning to its end, are therefore what is left of the lines. -/
namespace PromptWeave

namespace SectionItem

mutual
/-- The titles and texts of an item, each title in front of what its section holds. -/
def preorder : SectionItem → List String
  | .leaf l => [l.text]
  | .branch head items => head.title.toList ++ preorderItems items
def preorderItems : List SectionItem → List String
  | [] => []
  | i :: is => preorder i ++ preorderItems is
end

end SectionItem

def Section.preorder (s : Section) : List String := s.toItem.preorder

namespace Markdown

variable {kind : Kind}

theorem outline_induction {motive : List Outline → Prop} (nil : motive [])
    (text : ∀ t es, motive es → motive (.text t :: es))
    (headed : ∀ depth title inner es, motive inner → motive es →
      motive (.headed depth title inner :: es)) : ∀ es, motive es
  | [] => nil
  | .text t :: es => text t es (outline_induction nil text headed es)
  | .headed depth title inner :: es =>
    headed depth title inner es (outline_induction nil text headed inner)
      (outline_induction nil text headed es)

namespace Outline

mutual
def parts : Outline → List Part
  | .text t => (pieces t).map .text
  | .headed depth title inner => .heading depth title :: partsAll inner
def partsAll : List Outline → List Part
  | [] => []
  | e :: es => parts e ++ partsAll es
end

end Outline

/-! ### Texts of the parsed document -/

theorem substitute_empty (text : String) : Parameters.substitute .empty text = text := by
  have hchars : Parameters.substituteChars .empty text.toList = text.toList := rfl
  rw [Parameters.substitute, hchars, String.ofList_toList]

def piecesOf (texts : List String) : List (List Char) := texts.flatMap fun t => pieces t.toList

def Part.pieces : Part → List (List Char)
  | .heading _ title => Markdown.pieces title
  | .text line => [line]

end Markdown
end PromptWeave
