import PromptWeave.Prompt

/-! Sections as text.
A title is written as a pair of tags around the body or as a markdown heading in front of it, and
parts are set apart by a blank line. Blank leaves and sections without content leave no trace, and
an untitled section is written as its items alone. -/
namespace PromptWeave

inductive SectionStyle
  | tag
  | markdown
deriving DecidableEq, Repr

namespace SectionStyle

def name : SectionStyle → String
  | .tag => "tag"
  | .markdown => "markdown"

def names : List (String × SectionStyle) := [("tag", .tag), ("markdown", .markdown)]

/-- Case does not count, and both styles have a second name. -/
def ofName? (s : String) : Option SectionStyle :=
  match asciiLower s with
  | "tag" | "xml" => some .tag
  | "markdown" | "md" => some .markdown
  | _ => none

def unknownMessage (s : String) : String := "unknown section style '" ++ asciiLower s ++ "'"

def decode : Json.Decoder SectionStyle := Json.Decode.constant names

end SectionStyle

structure FormatOptions where
  /-- The style of an area as a whole. -/
  areaStyle : SectionStyle
  /-- The style of everything inside. -/
  sectionStyle : SectionStyle
  /-- Areas with a style of their own. -/
  areaStyles : List (Area × SectionStyle)
  /-- Whether the bodies of tags are set in by two spaces. -/
  indentation : Bool
  /-- What stands between two areas. -/
  separator : String
deriving DecidableEq

namespace FormatOptions

def standard : FormatOptions := ⟨.tag, .markdown, [], false, "\n\n"⟩

def withAreaStyle (o : FormatOptions) (a : Area) (style : SectionStyle) : FormatOptions :=
  { o with areaStyles := (a, style) :: o.areaStyles }

def styleFor (o : FormatOptions) (a : Area) : SectionStyle := (o.areaStyles.lookup a).getD o.areaStyle

end FormatOptions

namespace Render

def blankLine : List Char := ['\n', '\n']

def joinParts (parts : List (List Char)) : List Char := List.intercalate blankLine parts

/-- Sets in every line that is not empty. -/
def indent (body : List Char) : List Char :=
  Text.unlines ((Text.lines body).map fun line => if line.isEmpty then [] else ' ' :: ' ' :: line)

def openTag (title : List Char) : List Char := '<' :: title ++ ['>']

def closeTag (title : List Char) : List Char := '<' :: '/' :: title ++ ['>']

/-- Headings have at least one and at most six hashes. -/
def hashes (level : Nat) : List Char := List.replicate (max 1 (min level 6)) '#'

def heading (level : Nat) (title : List Char) : List Char := hashes level ++ ' ' :: title

def wrapTag (o : FormatOptions) (title body : List Char) : List Char :=
  let body := if o.indentation then indent body else body
  if body.isEmpty then openTag title ++ '\n' :: closeTag title
  else openTag title ++ '\n' :: body ++ '\n' :: closeTag title

def wrapMarkdown (level : Nat) (title body : List Char) : List Char :=
  if body.isEmpty then heading level title else heading level title ++ blankLine ++ body

def wrapTitled (o : FormatOptions) (style : SectionStyle) (level : Nat) (title body : List Char) :
    List Char :=
  match style with
  | .tag => wrapTag o title body
  | .markdown => wrapMarkdown level title body

/-- Puts a title to a body, if there is one. -/
def wrap (o : FormatOptions) (style : SectionStyle) (level : Nat) (title : Option String)
    (body : List Char) : List Char :=
  match title with
  | none => body
  | some title => wrapTitled o style level title.toList body

/-- The level of what is inside a section. -/
def inside (title : Option String) (level : Nat) : Nat := if title.isSome then level + 1 else level

def leaf (o : FormatOptions) (level : Nat) (l : Leaf) : Option (List Char) :=
  let body := Text.trim l.text.toList
  if body.isEmpty then none else some (wrap o o.sectionStyle level l.title body)

mutual
/-- The part that an item makes, if it makes one. -/
def item (o : FormatOptions) (level : Nat) : SectionItem → Option (List Char)
  | .leaf l => leaf o level l
  | .branch head items =>
    if SectionItem.anyContent items then
      some (wrap o o.sectionStyle level head.title
        (joinParts (parts o (inside head.title level) items)))
    else none
def parts (o : FormatOptions) (level : Nat) : List SectionItem → List (List Char)
  | [] => []
  | i :: is => match item o level i with
    | some part => part :: parts o level is
    | none => parts o level is
end

def body (o : FormatOptions) (level : Nat) (s : Section) : List Char := joinParts (parts o level s.items)

/-- A section standing alone, its title at `level`. -/
def sectionAt (o : FormatOptions) (level : Nat) (s : Section) : List Char :=
  wrap o o.sectionStyle level s.head.title (body o (inside s.head.title level) s)

/-- The text of an area that has content. The persona shows no title; another area shows its label
where its section has none. -/
def area (o : FormatOptions) (a : Area) (s : Section) : Option (List Char) :=
  if s.hasContent then
    some (if a = .persona then body o 1 s
      else wrapTitled o (o.styleFor a) 1 (s.head.title.getD a.label).toList (body o 2 s))
  else none

end Render

def renderSection (o : FormatOptions) (s : Section) : String := String.ofList (Render.sectionAt o 1 s)

def renderArea (o : FormatOptions) (p : Prompt) (a : Area) : Option String :=
  (p.section? a).bind fun s => (Render.area o a s).map String.ofList

end PromptWeave
