import PromptWeave.Text.Blank

/-! Hiding directories in messages.
An absolute path stands at the beginning of a message or behind a blank, a quote, an opening
parenthesis or an equals sign, and runs up to the next blank or quote. Only its last component is
shown. -/
namespace PromptWeave
namespace Text

/-- Ends an absolute path. -/
def endsPath (c : Char) : Bool := isBlank c || c == '\'' || c == '"'

/-- An absolute path may follow. -/
def opensPath (c : Char) : Bool := endsPath c || c == '(' || c == '='

def isAsciiLetter (c : Char) : Bool := ('a' ≤ c && c ≤ 'z') || ('A' ≤ c && c ≤ 'Z')

/-- Whether an absolute path, from a slash or from a drive letter, begins here. -/
def atPath : List Char → Bool
  | '/' :: _ => true
  | c :: ':' :: '\\' :: _ => isAsciiLetter c
  | _ => false

def isSlash (c : Char) : Bool := c == '/' || c == '\\'

def rootName : List Char := "<root>".toList

/-- What is shown of a path. -/
def lastComponent (path : List Char) : List Char :=
  let body := dropLastWhile isSlash path
  let last := (body.reverse.takeWhile fun c => !isSlash c).reverse
  if last.isEmpty then rootName else last

/-- The absolute path at the beginning of a text. -/
def pathRun (cs : List Char) : List Char := cs.takeWhile fun c => !endsPath c

/-- Rewrites a text of which the first `skip` characters belong to a path already shown. -/
def hidePathsFrom : Nat → List Char → List Char
  | _, [] => []
  | skip + 1, _ :: rest => hidePathsFrom skip rest
  | 0, c :: rest =>
    if opensPath c && atPath rest then
      c :: lastComponent (pathRun rest) ++ hidePathsFrom (pathRun rest).length rest
    else c :: hidePathsFrom 0 rest

/-- Replaces each absolute path by its last component. -/
def hidePaths (cs : List Char) : List Char :=
  if atPath cs then lastComponent (pathRun cs) ++ hidePathsFrom (pathRun cs).length cs
  else hidePathsFrom 0 cs

end Text

/-- The message with absolute paths cut down to their last component. -/
def sanitizePaths (message : String) : String := String.ofList (Text.hidePaths message.toList)

end PromptWeave
