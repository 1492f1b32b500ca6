import PromptWeave.Files.Reading
import PromptWeave.Markdown.Parser

/-! Markdown files. -/
namespace PromptWeave
namespace Markdown

def parseFile (o : Options) (p : Path) : Attempt Section := do
  return parse o (← Files.text p)

end Markdown
end PromptWeave
