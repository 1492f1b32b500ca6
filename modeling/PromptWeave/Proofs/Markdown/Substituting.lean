import PromptWeave.Proofs.Markdown.Stack
import PromptWeave.Proofs.Section

/-! Parameters and the structure of a document.
A parsed document with parameters is the one without, with the parameters put once into every title
and every text. This holds although the parameters can be put in while the document is still being
read: what a line is and whether a text is empty is decided on the text as it was written. -/
namespace PromptWeave
namespace Markdown

theorem toItems_mapTexts (o : Options) (es : List Outline) :
    toItems o es =
      SectionItem.mapTextsAll o.parameters.substitute (toItems (.plain o.kind) es) := by
  induction es using outline_induction with
  | nil => rfl
  | text t es ih =>
    rw [toItems, toItems, ih, toItem, toItem, Options.plain, substitute_empty]
    rfl
  | headed depth title inner es ihinner ih =>
    rw [toItems, toItems, ih, toItem, toItem, ihinner, Options.plain, substitute_empty]
    rfl

/-- Whether a section stands for the whole document does not depend on its titles and texts. -/
theorem unwrap_mapTexts (f : String → String) (head : SectionHead) (items : List SectionItem)
    (htitle : head.title = none) :
    unwrap ⟨head, SectionItem.mapTextsAll f items⟩ = (unwrap ⟨head, items⟩).mapTexts f := by
  have hhead : { head with title := head.title.map f } = head := by
    cases head
    simp_all
  have hwhole : (Section.mk head items).mapTexts f = ⟨head, SectionItem.mapTextsAll f items⟩ := by
    rw [Section.mapTexts, hhead]
  cases items with
  | nil => exact hwhole.symm
  | cons i is =>
    cases is with
    | cons j is => cases i <;> exact hwhole.symm
    | nil =>
      cases i with
      | leaf l => exact hwhole.symm
      | branch inner within => rfl

theorem parse_mapTexts (o : Options) (document : String) :
    parse o document = (parse (.plain o.kind) document).mapTexts o.parameters.substitute := by
  rw [parse, toItems_mapTexts]
  exact unwrap_mapTexts _ _ _ rfl

/-- No value changes the structure of a document. The document read line by line, with the parameters
put into each block as soon as it is complete, and the parsed document are the document without
parameters with every title and every text substituted once. -/
theorem structure_parse (o : Options) (document : String) :
    readAll o document = parse o document ∧
      parse o document = (parse (.plain o.kind) document).mapTexts o.parameters.substitute :=
  ⟨readAll_eq o document, parse_mapTexts o document⟩

/-- A value with a heading and a list item in it stays within the text that it is put into. -/
example :
    let o : Options := ⟨Dict.ofList [("x", .str "a\n# b\n- c")], .instruction⟩
    (parse o "# T\n\x7b\x7bx\x7d\x7d").items =
      [.leaf (Leaf.ofText .instruction "a\n# b\n- c")] := by decide +kernel

end Markdown
end PromptWeave
