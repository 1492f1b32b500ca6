import PromptWeave.Proofs.Parameters
import PromptWeave.Section.Basic

/-! Whose parameters come first.
A leaf takes its own parameters when it is made, and those of the call and of the section when it
is added. Its own come first throughout; the others reach only what the text held from the start
exactly when the own values settle it. -/
namespace PromptWeave

open Parameters

theorem Leaf.toList_text_resolved (params : Option Parameters) (leaf : Leaf) :
    (leaf.resolved params).text.toList = fill (value params) leaf.text.toList := by
  cases params with
  | none => exact (fill_none leaf.text.toList).symm
  | some params => exact toList_substitute? (some params) leaf.text

namespace Section

/-- What a leaf shows that was made and then added. A text that its own values settle is filled
once, each placeholder from the leaf's own parameters, else from those of the call and the section;
any other text is filled otherwise by some call. -/
theorem text_itemOf (o : LeafOptions) (raw : String) :
    ∃ leaf, Leaf.create { o with text := some raw } = .ok leaf ∧
      (∀ (s : Section) (options : AddOptions), ∃ added,
        s.itemOf options (.leaf leaf) = .leaf added ∧
        added.text.toList = fill (value (layer options.parameters s.head.parameters))
          (fill (value o.parameters) raw.toList)) ∧
      ((∀ (s : Section) (options : AddOptions) (added : Leaf),
          s.itemOf options (.leaf leaf) = .leaf added →
          added.text.toList = fill (first (value o.parameters)
            (value (layer options.parameters s.head.parameters))) raw.toList) ↔
        Settles (value o.parameters) raw.toList) := by
  let leaf : Leaf := ⟨o.kind, substitute? o.parameters raw, o.weight, o.parameters,
    o.title.map (substitute? o.parameters)⟩
  have htext : ∀ (s : Section) (options : AddOptions) (added : Leaf),
      s.itemOf options (.leaf leaf) = .leaf added →
      added.text.toList = fill (value (layer options.parameters s.head.parameters))
        (fill (value o.parameters) raw.toList) := by
    intro s options added hadded
    cases hadded
    rw [Leaf.toList_text_resolved, toList_substitute?]
  refine ⟨leaf, rfl, fun s options => ⟨_, rfl, htext s options _ rfl⟩, ?_⟩
  rw [← fill_fill_iff]
  constructor
  · intro hfilled params
    have hsome := hfilled (.empty .context) ⟨none, some params⟩ _ rfl
    rw [htext _ _ _ rfl] at hsome
    exact hsome
  · intro hfill s options added hadded
    rw [htext s options added hadded]
    cases layer options.parameters s.head.parameters with
    | some params => exact hfill params
    | none =>
      have hnone : value (some Dict.empty) = value none := value_of_isEmpty rfl
      rw [← hnone]
      exact hfill Dict.empty

/-- A value of the leaf's own that is a placeholder itself is expanded again. -/
theorem own_value_expanded :
    ¬ ∀ (o : LeafOptions) (raw : String) (leaf : Leaf) (s : Section) (options : AddOptions)
      (added : Leaf), Leaf.create { o with text := some raw } = .ok leaf →
        s.itemOf options (.leaf leaf) = .leaf added →
        added.text.toList = fill (first (value o.parameters)
          (value (layer options.parameters s.head.parameters))) raw.toList := by
  intro honce
  have htext := honce
    ⟨.context, none, none, some (Dict.empty.insert "a" (.str "\x7b\x7bb\x7d\x7d")), none⟩
    "\x7b\x7ba\x7d\x7d" _
    ((Section.empty .context).withParameters (Dict.empty.insert "b" (.str "x"))) .none _ rfl rfl
  exact absurd htext (by decide)

end Section
end PromptWeave
