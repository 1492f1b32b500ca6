import Mathlib.Data.List.Lex
import Mathlib.Data.String.Basic

/-! Texts in the order of their bytes.
UTF-8 keeps the order of characters: a greater character has a greater byte at the first place where
the two differ. Texts are therefore ordered as the lists of their bytes are. -/
namespace PromptWeave
namespace Text

def bytes (s : String) : List UInt8 := s.toUTF8.data.toList

end Text
end PromptWeave
