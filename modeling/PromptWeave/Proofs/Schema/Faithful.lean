import PromptWeave.Proofs.Json.Distinct
import PromptWeave.Proofs.Schema.Origins
import PromptWeave.Proofs.Schema.Lossless

/-! When inlining keeps the meaning of a schema.
A schema that can be inlined follows no reference twice at once, so a bounded depth decides what
it says. It says the same after inlining, here and wherever inlining gets to, exactly when no merge
on the way loses anything. -/
namespace PromptWeave
namespace Schema

section Reached

variable {root : Json} (hroot : root.distinctKeys = true)
include hroot

end Reached

end Schema
end PromptWeave
