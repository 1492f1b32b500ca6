import PromptWeave.Error

/-! Name patterns that are safe to run.
A pattern is unsafe when a repeated group holds a repetition, or when two branches of a repeated
group begin alike. The pattern is read as characters, groups and classes and need not be a regular
expression. -/
namespace PromptWeave
namespace NamePattern

/-- How many characters a safe pattern has at most. -/
def maxLength : Nat := 256

def isCountChar (c : Char) : Bool := c.isDigit || c == ','

/-- Whether a repetition stands here: a star, a plus sign, or a count in braces. -/
def repeatsAt : List Char → Bool
  | [] => false
  | c :: cs =>
    if c = '*' ∨ c = '+' then true
    else if c = '\x7b' then
      (cs.takeWhile isCountChar).any Char.isDigit && (cs.dropWhile isCountChar).head? == some '\x7d'
    else false

/-- How many characters of a class are left, its closing bracket included. -/
def classTail : List Char → Nat
  | [] => 0
  | ['\\'] => 1
  | '\\' :: _ :: cs => classTail cs + 2
  | ']' :: _ => 1
  | _ :: cs => classTail cs + 1

/-- How many characters of a class follow its opening bracket. A bracket that stands first closes
nothing; a class that is not closed goes on to the end. -/
def classLength : List Char → Nat
  | '^' :: ']' :: cs => classTail cs + 2
  | '^' :: cs => classTail cs + 1
  | ']' :: cs => classTail cs + 1
  | cs => classTail cs

/-- Puts a character in front of the first branch. -/
def intoFirst (c : Char) : List (List Char) → List (List Char)
  | [] => [[c]]
  | b :: bs => (c :: b) :: bs

/-- Cuts at the bars outside of groups and classes. The first `skip` characters are passed over,
`depth` groups are open. -/
def splitBranches : (skip depth : Nat) → List Char → List (List Char)
  | _, _, [] => [[]]
  | skip + 1, depth, c :: cs => intoFirst c (splitBranches skip depth cs)
  | 0, depth, c :: cs =>
    if c = '|' ∧ depth = 0 then [] :: splitBranches 0 0 cs
    else if c = '\\' then intoFirst c (splitBranches 1 depth cs)
    else if c = '[' then intoFirst c (splitBranches (classLength cs) depth cs)
    else if c = '(' then intoFirst c (splitBranches 0 (depth + 1) cs)
    else if c = ')' then intoFirst c (splitBranches 0 (depth - 1) cs)
    else intoFirst c (splitBranches 0 depth cs)

/-- The inside of a group without its flags. -/
def withoutFlags : List Char → List Char
  | '?' :: cs => match Text.cutAt? ':' cs with
    | some (_, rest) => rest
    | none => []
  | cs => cs

/-- Whether one of the texts is the beginning of the other. -/
def comparable (a b : List Char) : Bool := a.isPrefixOf b || b.isPrefixOf a

def anyComparable : List (List Char) → Bool
  | [] => false
  | b :: bs => bs.any (comparable b) || anyComparable bs

/-- Whether two branches of a group begin alike. -/
def branchesOverlap (inside : List Char) : Bool :=
  anyComparable (splitBranches 0 0 (withoutFlags inside))

/-- A group that is open: the text behind its parenthesis, and whether a repetition was seen. -/
structure OpenGroup where
  inside : List Char
  repeats : Bool

/-- Tells the innermost group of a repetition inside it. -/
def markRepeat : List OpenGroup → List OpenGroup
  | [] => []
  | g :: gs => { g with repeats := true } :: gs

/-- Reads a pattern whose first `skip` characters are passed over. -/
def scan : (skip : Nat) → (groups : List OpenGroup) → List Char → Option Hazard
  | _, _, [] => none
  | skip + 1, groups, _ :: cs => scan skip groups cs
  | 0, groups, c :: cs =>
    if c = '\\' then scan 1 groups cs
    else if c = '[' then scan (classLength cs) groups cs
    else if c = '(' then scan 0 (⟨cs, false⟩ :: groups) cs
    else if c = ')' then
      match groups with
      | [] => scan 0 [] cs
      | g :: groups =>
        if repeatsAt cs then
          if g.repeats then some .nestedQuantifier
          else if branchesOverlap (g.inside.take (g.inside.length - (cs.length + 1))) then
            some .overlappingBranches
          else scan 0 groups cs
        else scan 0 (if g.repeats then markRepeat groups else groups) cs
    else scan 0 (if repeatsAt (c :: cs) then markRepeat groups else groups) cs

/-- What makes a pattern unsafe, if anything does. -/
def hazard? (pattern : List Char) : Option Hazard :=
  if maxLength < pattern.length then some (.tooLong maxLength) else scan 0 [] pattern

def checkSafety (pattern : String) : Except Error Unit :=
  match hazard? pattern.toList with
  | some h => .error (.unsafePattern pattern h)
  | none => .ok ()

end NamePattern
end PromptWeave
