import PromptWeave.Regex.Bracket
import PromptWeave.Unicode.Category
import PromptWeave.Unicode.Property

/-! Reading regular expressions.
Flags that stand alone hold up to the end of the group around them. Names of groups are given only
once, and there is no looking ahead or behind. -/
namespace PromptWeave
namespace Regex

def isNameStart (c : Char) : Bool := c == '_' || (Unicode.propertyRanges "alphabetic").contains c.toNat

def isNumeric (c : Char) : Bool :=
  ["Nd", "Nl", "No"].any fun name =>
    ((Unicode.lookupRanges Unicode.categoryTable name).getD []).contains c.toNat

def isNameRest (c : Char) : Bool :=
  isNameStart c || c == '.' || c == '[' || c == ']' || isNumeric c

/-- The name of a group up to its closing angle bracket. -/
def groupName (cs : List Char) : Option (List Char × List Char) := do
  match ← Text.cutAt? '>' cs with
  | (c :: name, rest) => if isNameStart c && name.all isNameRest then return (c :: name, rest) else none
  | ([], _) => none

/-- What an opening parenthesis begins. -/
inductive Opening
  | flags (fs : Flags)
  | group (kind : GroupKind)

def namedOpening (cs : List Char) : Option (Opening × List Char) := do
  let (name, rest) ← groupName cs
  return (.group (.named name), rest)

/-- What stands behind an opening parenthesis and belongs to it. -/
def opening (verbose : Bool) (cs : List Char) : Option (Opening × List Char) :=
  match skip verbose cs with
  | '?' :: '=' :: _ | '?' :: '!' :: _ | '?' :: '<' :: '=' :: _ | '?' :: '<' :: '!' :: _ => none
  | '?' :: 'P' :: '<' :: cs => namedOpening cs
  | '?' :: '<' :: cs => namedOpening cs
  | '?' :: cs => do
    match ← flagList false false [] cs with
    | ([], ')', _) => none
    | (fs, ')', rest) => return (.flags fs, rest)
    | (fs, _, rest) => return (.group (.plain fs), rest)
  | cs => some (.group .capture, cs)

/-- Whether blanks and comments do not count inside a group. -/
def verboseIn (verbose : Bool) : GroupKind → Bool
  | .plain fs => fs.state .verbose verbose
  | .capture | .named _ => verbose

/-- The names of groups with that of a group; none if it was there before. -/
def addName (names : List (List Char)) : GroupKind → Option (List (List Char))
  | .named name => if names.contains name then none else some (name :: names)
  | .capture | .plain _ => some names

/-- Blanks that do not count, as a node in front of the nodes read so far. -/
def withBlank (source : List Char) (now : List Node) : List Node :=
  if source.isEmpty then now else .blank source :: now

/-- The nodes read so far with the last one repeated; blanks before the quantifier are part of it.
Flags cannot be repeated. -/
def repeatLast (source : List Char) (q : Quantifier) : List Node → Option (List Node)
  | [] | .flags _ _ :: _ | .blank _ :: _ => none
  | n :: now => some (.repeated n source q :: now)

structure Parsed where
  branches : Branches
  names : List (List Char)
  rest : List Char

/-- Reads branches up to a closing parenthesis or the end. `done` holds the branches before, `now`
the nodes of the current branch, both in reverse. -/
def body : (fuel : Nat) → (verbose : Bool) → (names : List (List Char)) → (done : Branches) →
    (now : List Node) → List Char → Option Parsed
  | 0, _, _, _, _, _ => none
  | fuel + 1, verbose, names, done, now, cs =>
    let inner := skip verbose cs
    let gap := consumed cs inner
    match inner with
    | [] => some ⟨((withBlank gap now).reverse :: done).reverse, names, []⟩
    | c :: rest =>
      if c = ')' then some ⟨((withBlank gap now).reverse :: done).reverse, names, inner⟩
      else if c = '|' then
        body fuel verbose names ((withBlank gap now).reverse :: done) [] rest
      else if c = '(' then do
        match ← opening verbose rest with
        | (.flags fs, rest) =>
          body fuel (fs.state .verbose verbose) names done
            (.flags (consumed inner rest) fs :: withBlank gap now) rest
        | (.group kind, rest) =>
          let parsed ← body fuel (verboseIn verbose kind) (← addName names kind) [] [] rest
          match parsed.rest with
          | ')' :: after =>
            body fuel verbose parsed.names done
              (.group (consumed inner rest) kind parsed.branches :: withBlank gap now) after
          | _ => none
      else if c = '[' then do
        let (a, rest) ← bracketed verbose rest
        body fuel verbose names done (.atom (consumed inner rest) a :: withBlank gap now) rest
      else if c = '?' ∨ c = '*' ∨ c = '+' ∨ c = '\x7b' then do
        let (q, rest) ← quantifier verbose c rest
        body fuel verbose names done (← repeatLast (consumed cs rest) q now) rest
      else do
        let (a, rest) ← simpleAtom verbose inner
        body fuel verbose names done (.atom (consumed inner rest) a :: withBlank gap now) rest

/-- How deep a pattern may be nested. -/
def maxNesting : Nat := 250

/-- The branches of a whole pattern. -/
def parse (pattern : List Char) : Option Branches := do
  let parsed ← body (pattern.length + 1) false [] [] [] pattern
  if parsed.rest.isEmpty && nesting parsed.branches ≤ maxNesting then return parsed.branches
  else none

end Regex
end PromptWeave
