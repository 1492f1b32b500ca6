import PromptWeave.Markdown.Line

/-! Blocks of a markdown document.
Lines of running text that follow one another make a paragraph; indented ones continue a list
item. Fenced code runs to the closing fence or the end of the document and is kept as written. -/
namespace PromptWeave
namespace Markdown

inductive Block
  | heading (depth : Nat) (title : List Char)
  | paragraph (lines : List (List Char))
  | item (text : List Char)
  | code (lines : List (List Char))
deriving DecidableEq, Repr

/-- The block that is being read. -/
inductive Pending
  | nothing
  | paragraph (lines : List (List Char))
  | item (text : List Char)
  | code (mark : Char) (lines : List (List Char))
deriving DecidableEq, Repr

/-- A list item without text makes no block. -/
def Pending.finish : Pending → List Block
  | .nothing => []
  | .paragraph lines => [.paragraph lines]
  | .item text => if text.isEmpty then [] else [.item text]
  | .code _ lines => [.code lines]

/-- What a line outside fenced code completes, and what is being read then. -/
def Pending.next (p : Pending) (line : List Char) : List Block × Pending :=
  match classify line with
  | .fence mark => (p.finish, .code mark [line])
  | .heading depth title => (p.finish ++ [.heading depth title], .nothing)
  | .blank => (p.finish, .nothing)
  | .bullet text => (p.finish, .item text)
  | .running text indented => match p with
    | .item begun =>
      if indented then ([], .item (begun ++ '\n' :: text)) else (p.finish, .paragraph [text])
    | .paragraph lines => ([], .paragraph (lines ++ [text]))
    | _ => (p.finish, .paragraph [text])

def Pending.step (p : Pending) (line : List Char) : List Block × Pending :=
  match p with
  | .code mark lines =>
    if closesFence mark line then ([.code (lines ++ [line])], .nothing)
    else ([], .code mark (lines ++ [line]))
  | p => p.next line

def blocksFrom (p : Pending) : List (List Char) → List Block
  | [] => p.finish
  | line :: rest => (p.step line).1 ++ blocksFrom (p.step line).2 rest

@[simp] theorem blocksFrom_nil (p : Pending) : blocksFrom p [] = p.finish := rfl

@[simp] theorem blocksFrom_cons (p : Pending) (line : List Char) (rest : List (List Char)) :
    blocksFrom p (line :: rest) = (p.step line).1 ++ blocksFrom (p.step line).2 rest := rfl

/-- The blocks of a document. -/
def blocks (document : List Char) : List Block := blocksFrom .nothing (Text.lines document)

end Markdown
end PromptWeave
