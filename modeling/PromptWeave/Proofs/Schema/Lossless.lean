import PromptWeave.Proofs.Schema.Meaning

/-! Merges that lose nothing.
A merge keeps the meaning of both its sides exactly when what it leaves out follows from what it
keeps. A schema is inlined without loss when this holds of every merge in it. -/
namespace PromptWeave
namespace Schema

variable {follow follow' : Json → Json → Bool} {resolve : Resolver}

/-- A merge leaves out nothing that does not follow from what it keeps. -/
def Lossless (fields added : List (String × Json)) : Prop :=
  ∀ v, meets silent (.obj (mergeMissing fields added)) v = true →
    meets silent (.obj (leftOut fields added)) v = true

structure MergesLossless (resolve : Resolver) (fields : List (String × Json)) : Prop where
  reference : ∀ kept a target, Kept resolve fields kept → Assoc.find? "$ref" fields = some a →
    resolve a = .ok target → Lossless kept target
  single : ∀ merged only, Merged resolve fields merged →
    Assoc.find? "allOf" merged = some (.arr [.obj only]) →
      Lossless (Assoc.erase "allOf" merged) only

theorem MergesLossless.of_le {resolve' : Resolver} {fields : List (String × Json)}
    (hle : ∀ a f, resolve a = .ok f → resolve' a = .ok f) (h : MergesLossless resolve' fields) :
    MergesLossless resolve fields :=
  ⟨fun kept a target hkept href hres =>
      h.reference kept a target (hkept.mono hle) href (hle a target hres),
    fun merged only hmerged hall => h.single merged only (hmerged.mono hle) hall⟩

end Schema
end PromptWeave
