import PromptWeave.Unicode.Category
import PromptWeave.Unicode.Property
import PromptWeave.Unicode.Script

/-! Sets of characters by name.
Blanks, hyphens, underscores and case do not count in a name, nor does `is` in front. A plain name
is that of a property, a general category or a script, in this order. -/
namespace PromptWeave
namespace Unicode

def isFiller (c : Char) : Bool := c == ' ' || c == '_' || c == '-'

/-- The name behind `is`, if it begins so. -/
def withoutIs : List Char → Option (List Char)
  | a :: b :: rest => if a.toLower = 'i' ∧ b.toLower = 's' then some rest else none
  | _ => none

def squeeze (name : List Char) : String :=
  String.ofList ((name.filter fun c => !isFiller c && c.toNat < 128).map Char.toLower)

/-- The spelling of a name that tables use. -/
def looseName (name : List Char) : String :=
  match withoutIs name with
  | none => squeeze name
  | some rest => if squeeze rest = "c" then "isc" else squeeze rest

/-- The characters listed for a general category. -/
def listed (code : String) : RangeSet := (lookupRanges categoryTable code).getD []

def assigned : RangeSet := RangeSet.ofList (categoryTable.flatMap fun (_, s) => rangesOfText s)

def categoryRanges (code : String) : RangeSet :=
  if code = "Cn" then complement assigned else listed code

/-- A general category or a group of them; surrogates are not characters. -/
def category? (name : String) : Option RangeSet :=
  if name = "any" then some allChars
  else if name = "ascii" then some [(0, 0x7F)]
  else if name = "assigned" then some (RangeSet.inter allChars assigned)
  else match categoryNames.lookup name with
    | none => none
    | some codes =>
      if codes = ["Cs"] then none
      else some (RangeSet.inter allChars (RangeSet.ofList (codes.flatMap categoryRanges)))

def scriptName (name : String) : String := (scriptNames.lookup name).getD name

def script? (name : String) : Option RangeSet := lookupRanges scriptTable (scriptName name)

/-- A script with the characters that it shares with other scripts. -/
def scriptExtension? (name : String) : Option RangeSet :=
  match lookupRanges scriptExtensionTable (scriptName name) with
  | some s => some s
  | none => script? name

def property? (name : String) : Option RangeSet :=
  lookupRanges propertyTable ((propertyNames.lookup name).getD name)

/-- Names of general categories that are also short for a property. -/
def isCategoryFirst (name : String) : Bool := name = "cf" ∨ name = "sc" ∨ name = "lc"

/-- The set with a plain name. -/
def named? (name : List Char) : Option RangeSet :=
  let n := looseName name
  if isCategoryFirst n then category? n
  else (property? n).or ((category? n).or (script? n))

/-- The characters for which a property has a value. -/
def valued? (name value : List Char) : Option RangeSet :=
  let n := looseName name
  let v := looseName value
  if n = "gc" ∨ n = "generalcategory" then category? v
  else if n = "sc" ∨ n = "script" then script? v
  else if n = "scx" ∨ n = "scriptextensions" then scriptExtension? v
  else none

/-- Letters, marks, digits, connectors and joiners. -/
def wordRanges : RangeSet := RangeSet.ofList
  (propertyRanges "alphabetic" ++ ["Mn", "Mc", "Me", "Nd", "Pc"].flatMap listed ++
    propertyRanges "joincontrol")

def digitRanges : RangeSet := listed "Nd"

def spaceRanges : RangeSet := propertyRanges "whitespace"

end Unicode
end PromptWeave
