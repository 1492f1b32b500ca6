import PromptWeave.Markdown.Block

/-! The outline of a document.
A heading takes in all that follows it up to the next heading that is not deeper. Read from the
end of the document, it takes the entries in front of that heading out of the list it stands in. -/
namespace PromptWeave
namespace Markdown

inductive Outline
  | text (t : List Char)
  | headed (depth : Nat) (title : List Char) (inner : List Outline)

namespace Outline

/-- Whether an entry belongs under a heading of `depth` that precedes it. -/
def under (depth : Nat) : Outline → Bool
  | .text _ => true
  | .headed d _ _ => depth < d

/-- Puts a block in front of the entries that follow it. -/
def place (entries : List Outline) : Block → List Outline
  | .heading depth title =>
    .headed depth title (entries.takeWhile (under depth)) :: entries.dropWhile (under depth)
  | .paragraph lines => .text (Text.unlines lines) :: entries
  | .item t => .text t :: entries
  | .code lines => .text (Text.unlines lines) :: entries

def ofBlocks : List Block → List Outline
  | [] => []
  | b :: rest => place (ofBlocks rest) b

@[simp] theorem ofBlocks_nil : ofBlocks [] = [] := rfl

@[simp] theorem ofBlocks_cons (b : Block) (rest : List Block) :
    ofBlocks (b :: rest) = place (ofBlocks rest) b := rfl

end Outline

def outline (document : List Char) : List Outline := Outline.ofBlocks (blocks document)

end Markdown
end PromptWeave
