import PromptWeave.Regex.Meaning
import PromptWeave.Regex.Parser
import PromptWeave.Regex.Weight

/-! Compiled regular expressions.
A pattern is refused when it is not well formed, has no meaning, or would take too much memory. -/
namespace PromptWeave

/-- A regular expression over the characters of a text, or over its bytes. -/
structure Regex where
  expr : Regex.Expr
  onBytes : Bool

namespace Regex

/-- A pattern of any size. -/
def ofPattern? (pattern : String) : Option Regex := do
  return ⟨← meaning (← parse pattern.toList), false⟩

def compile? (pattern : String) : Option Regex := do
  let r ← ofPattern? pattern
  if r.expr.fits false then return r else none

def symbols (onBytes : Bool) (s : String) : List Nat :=
  if onBytes then s.toUTF8.toList.map UInt8.toNat else s.toList.map Char.toNat

/-- Whether some part of a text matches. -/
def isMatch (r : Regex) (s : String) : Bool := r.expr.occursIn (symbols r.onBytes s)

end Regex
end PromptWeave
