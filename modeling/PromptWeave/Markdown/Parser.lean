import PromptWeave.Markdown.Outline
import PromptWeave.Section.Basic

/-! Markdown documents as sections.
Texts take the parameters only when the outline stands, so no value changes it. A document that is
one heading with all that belongs to it becomes the section of that heading. -/
namespace PromptWeave
namespace Markdown

/-- The parameters put into titles and texts, and the kind of the leaves. -/
structure Options where
  parameters : Parameters
  kind : Kind

def Options.plain (kind : Kind) : Options := ⟨.empty, kind⟩

mutual
def toItem (o : Options) : Outline → SectionItem
  | .text t => .leaf (Leaf.ofText o.kind (o.parameters.substitute (String.ofList t)))
  | .headed _ title inner =>
    .branch ⟨some (o.parameters.substitute (String.ofList title)), o.kind, none, none, none⟩
      (toItems o inner)
def toItems (o : Options) : List Outline → List SectionItem
  | [] => []
  | e :: es => toItem o e :: toItems o es
end

/-- A single section in place of an untitled one around it. -/
def unwrap (s : Section) : Section :=
  match s.items with
  | [.branch head items] => ⟨head, items⟩
  | _ => s

def parse (o : Options) (document : String) : Section :=
  unwrap { Section.empty o.kind with items := toItems o (outline document.toList) }

/-- Cuts off a heading that stands before everything else; the rest is trimmed. -/
def splitLeadingHeading (text : String) : Option String × String :=
  match (Text.lines text.toList).dropWhile Text.allBlank with
  | [] => (none, "")
  | first :: rest => match heading? first with
    | some (_, title) =>
      (some (String.ofList title), String.ofList (Text.trim (Text.unlines rest)))
    | none => (none, trimmed text)

end Markdown
end PromptWeave
