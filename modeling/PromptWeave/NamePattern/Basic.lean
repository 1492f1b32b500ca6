import PromptWeave.Glob
import PromptWeave.NamePattern.Safety

/-! Patterns for names.
A safe pattern is a regular expression, which may match anywhere in a name, or else a glob, which
has to match all of it. -/
namespace PromptWeave

inductive NamePattern
  | regex (r : Regex)
  | glob (r : Regex)

namespace NamePattern

def compile (pattern : String) : Except Error NamePattern := do
  checkSafety pattern
  match Regex.compile? pattern, Glob.compile? pattern with
  | some r, _ => return .regex r
  | none, some r => return .glob r
  | none, none => throw (.config (.unusablePattern pattern "not a well-formed pattern"))

def isMatch : NamePattern → String → Bool
  | .regex r, name | .glob r, name => r.isMatch name

end NamePattern
end PromptWeave
