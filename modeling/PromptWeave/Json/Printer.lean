import PromptWeave.Json.Basic

/-! JSON text.
The compact form has no blanks; the spread form puts each element on a line of its own, two
spaces deeper than the bracket it stands in. -/
namespace PromptWeave
namespace Json

def hexDigit (n : Nat) : Char := (Nat.digitChar (n % 16))

/-- A quote, a backslash and the controls below U+0020 are escaped, everything else stands as it is. -/
def escape (c : Char) : List Char :=
  if c = '"' then ['\\', '"']
  else if c = '\\' then ['\\', '\\']
  else if c = '\n' then ['\\', 'n']
  else if c = '\r' then ['\\', 'r']
  else if c = '\t' then ['\\', 't']
  else if c.toNat = 8 then ['\\', 'b']
  else if c.toNat = 12 then ['\\', 'f']
  else if c.toNat < 32 then ['\\', 'u', '0', '0', hexDigit (c.toNat / 16), hexDigit c.toNat]
  else [c]

def quote (s : String) : List Char := '"' :: s.toList.flatMap escape ++ ['"']

def Number.text : Number → List Char
  | .int i => if i < 0 then '-' :: Nat.toDigits 10 i.natAbs else Nat.toDigits 10 i.natAbs
  | .float x => Shortest.text .double .double x

mutual
def compactChars : Json → List Char
  | .null => ['n', 'u', 'l', 'l']
  | .bool true => ['t', 'r', 'u', 'e']
  | .bool false => ['f', 'a', 'l', 's', 'e']
  | .num n => n.text
  | .str s => quote s
  | .arr items => '[' :: compactItems items ++ [']']
  | .obj fields => '\x7b' :: compactFields fields ++ ['\x7d']
def compactItems : List Json → List Char
  | [] => []
  | [v] => compactChars v
  | v :: vs => compactChars v ++ ',' :: compactItems vs
def compactFields : List (String × Json) → List Char
  | [] => []
  | [(k, v)] => quote k ++ ':' :: compactChars v
  | (k, v) :: rest => quote k ++ ':' :: compactChars v ++ ',' :: compactFields rest
end

def compact (v : Json) : String := String.ofList (compactChars v)

/-- An object in compact form, its values being texts already. -/
def compactObject (fields : List (String × List Char)) : List Char :=
  '\x7b' :: List.intercalate [','] (fields.map fun (k, v) => quote k ++ ':' :: v) ++ ['\x7d']

def newline (depth : Nat) : List Char := '\n' :: List.replicate (2 * depth) ' '

mutual
def spreadChars (depth : Nat) : Json → List Char
  | .arr [] => ['[', ']']
  | .obj [] => ['\x7b', '\x7d']
  | .arr items => '[' :: spreadItems (depth + 1) items ++ newline depth ++ [']']
  | .obj fields => '\x7b' :: spreadFields (depth + 1) fields ++ newline depth ++ ['\x7d']
  | .null => ['n', 'u', 'l', 'l']
  | .bool true => ['t', 'r', 'u', 'e']
  | .bool false => ['f', 'a', 'l', 's', 'e']
  | .num n => n.text
  | .str s => quote s
def spreadItems (depth : Nat) : List Json → List Char
  | [] => []
  | [v] => newline depth ++ spreadChars depth v
  | v :: vs => newline depth ++ spreadChars depth v ++ ',' :: spreadItems depth vs
def spreadFields (depth : Nat) : List (String × Json) → List Char
  | [] => []
  | [(k, v)] => newline depth ++ quote k ++ ':' :: ' ' :: spreadChars depth v
  | (k, v) :: rest =>
    newline depth ++ quote k ++ ':' :: ' ' :: spreadChars depth v ++ ',' :: spreadFields depth rest
end

def spread (v : Json) : String := String.ofList (spreadChars 0 v)

end Json
end PromptWeave
