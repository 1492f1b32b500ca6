/-! Blank characters, trimming and lines.
A text is cut at newlines; a carriage return counts as part of the line end only directly before
a newline. -/
namespace PromptWeave
namespace Text

/-- The characters with the White_Space property. -/
def isBlank (c : Char) : Bool :=
  let n := c.toNat
  (9 ≤ n && n ≤ 13) || n == 0x20 || n == 0x85 || n == 0xA0 || n == 0x1680 ||
    (0x2000 ≤ n && n ≤ 0x200A) || n == 0x2028 || n == 0x2029 || n == 0x202F || n == 0x205F ||
    n == 0x3000

theorem isBlank_space : isBlank ' ' = true := by decide

theorem isBlank_newline : isBlank '\n' = true := by decide

def trimStart (cs : List Char) : List Char := cs.dropWhile isBlank

@[simp] theorem trimStart_nil : trimStart [] = [] := rfl

/-- Drops the longest final stretch of characters that satisfy `p`. -/
def dropLastWhile (p : Char → Bool) : List Char → List Char
  | [] => []
  | c :: cs => match dropLastWhile p cs with
    | [] => if p c then [] else [c]
    | kept => c :: kept

@[simp] theorem dropLastWhile_nil (p : Char → Bool) : dropLastWhile p [] = [] := rfl

def trimEnd (cs : List Char) : List Char := dropLastWhile isBlank cs

@[simp] theorem trimEnd_nil : trimEnd [] = [] := rfl

def trim (cs : List Char) : List Char := trimEnd (trimStart cs)

@[simp] theorem trim_nil : trim [] = [] := rfl

/-- A text is blank when it holds blank characters only. -/
def allBlank (cs : List Char) : Bool := cs.all isBlank

/-- Cuts a text at its newlines. A final newline opens no further line. -/
def lines : List Char → List (List Char)
  | [] => []
  | '\n' :: rest => [] :: lines rest
  | '\r' :: '\n' :: rest => [] :: lines rest
  | c :: rest => match lines rest with
    | [] => [[c]]
    | line :: more => (c :: line) :: more

@[simp] theorem lines_nil : lines [] = [] := rfl

@[simp] theorem lines_newline (rest : List Char) : lines ('\n' :: rest) = [] :: lines rest := rfl

def unlines (ls : List (List Char)) : List Char := List.intercalate ['\n'] ls

/-- Whether `p` is the beginning of the text. -/
def startsWith (p cs : List Char) : Bool := p.isPrefixOf cs

/-- The text behind its beginning `p`, if it begins with `p`. -/
def after? (p cs : List Char) : Option (List Char) := if p.isPrefixOf cs then some (cs.drop p.length) else none

/-- Cuts at the first `c`, which belongs to neither part. -/
def cutAt? (c : Char) : List Char → Option (List Char × List Char)
  | [] => none
  | d :: ds => if d = c then some ([], ds) else (cutAt? c ds).map fun (a, b) => (d :: a, b)

/-- Cuts at every `c`; a text without `c` is one piece. -/
def splitAt (c : Char) : List Char → List (List Char)
  | [] => [[]]
  | d :: ds => if d = c then [] :: splitAt c ds else match splitAt c ds with
    | [] => [[d]]
    | piece :: more => (d :: piece) :: more

end Text

/-- `s` without blank characters at either end. -/
def trimmed (s : String) : String := String.ofList (Text.trim s.toList)

def blank (s : String) : Bool := Text.allBlank s.toList

/-- Joins texts with a separator between neighbours. -/
def joinWith (sep : String) (parts : List String) : String :=
  String.ofList (List.intercalate sep.toList (parts.map String.toList))

def asciiLower (s : String) : String := String.ofList (s.toList.map Char.toLower)

end PromptWeave
