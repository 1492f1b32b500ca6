import PromptWeave.Proofs.Assoc
import PromptWeave.Proofs.Files.Loading
import PromptWeave.Proofs.Recipe.Filling

/-! Whose values folders are filled with.
The options for folders have parameters of their own beside those of the assembly. What folders give
is filled with both, those of the options first. -/
namespace PromptWeave

namespace Parameters

open Placeholder (IsPath)

def keyOf (path : List Char) : String := String.ofList ((Text.splitAt '.' path).headD [])

theorem lookup?_eq (params : Parameters) (path : List Char) : lookup? params path =
    (params.find? (keyOf path)).bind fun v => (Text.splitAt '.' path).tail.foldlM step? v := by
  rw [lookup?, keyOf]
  cases h : Text.splitAt '.' path with
  | nil => exact absurd h (Text.splitAt_ne_nil '.' path)
  | cons first more => rfl

theorem value_of_find?_none {params : Parameters} {path : List Char}
    (h : params.find? (keyOf path) = none) : value (some params) path = none := by
  rw [value, Option.bind_some, lookup?_eq, h]
  rfl

/-- The upper layer has the values of all paths that begin with one of its keys. -/
theorem value_onto (top below : Parameters) (path : List Char) :
    value (some (top.onto below)) path = if (top.find? (keyOf path)).isSome then
      value (some top) path else value (some below) path := by
  simp only [value, Option.bind_some, lookup?_eq, Dict.find?_onto]
  cases top.find? (keyOf path) <;> simp

/-- The order of two layers does not count where they do not differ on a key that both have. -/
theorem value_onto_comm_iff {top below : Parameters} {path : List Char} :
    value (some (top.onto below)) path = value (some (below.onto top)) path ↔
      ((top.find? (keyOf path)).isSome → (below.find? (keyOf path)).isSome →
        value (some top) path = value (some below) path) := by
  rw [value_onto, value_onto]
  cases htop : top.find? (keyOf path) with
  | none =>
    cases hbelow : below.find? (keyOf path) with
    | none => simp [value_of_find?_none htop, value_of_find?_none hbelow]
    | some => simp
  | some =>
    cases hbelow : below.find? (keyOf path) <;> simp

theorem fill_congr {f g : List Char → Option (List Char)} (h : ∀ path, IsPath path → f path = g path)
    (cs : List Char) : fill f cs = fill g cs := by
  rw [fill, fill, List.flatMap_def, List.flatMap_def]
  congr 1
  refine List.map_congr_left fun x hx => ?_
  cases x with
  | plain c => rfl
  | hole p => rw [fillPiece, fillPiece, h p.path (Placeholder.sound_of_mem_pieces hx).path]

theorem fill_source {f : List Char → Option (List Char)} {p : Placeholder} (hp : p.Sound) :
    fill f p.source = (f p.path).getD p.source := by
  have hpieces := Placeholder.pieces_hole hp []
  rw [List.append_nil] at hpieces
  simp [fill, hpieces, fillPiece]

/-- A placeholder of the path, with `n` blanks in front of it. -/
def hole (n : Nat) (path : List Char) : Placeholder := ⟨List.replicate n ' ', path, []⟩

theorem sound_hole {path : List Char} (hpath : IsPath path) (n : Nat) : (hole n path).Sound where
  lead c hc := by
    rw [(List.mem_replicate.mp hc).2]
    decide
  path := hpath
  trail := by simp [hole]

theorem notMem_hole {path : List Char} (hpath : IsPath path) (n : Nat) :
    '\n' ∉ (hole n path).source := by
  have hnone : '\n' ∉ path := hpath.notMem (by decide) (by decide)
  simp [hole, Placeholder.source, Placeholder.openMark, Placeholder.closeMark, hnone]

/-- The value of a path shows in placeholders of it that are written differently. -/
theorem value_of_fill {f g : List Char → Option (List Char)} {path : List Char} (hpath : IsPath path)
    (h : ∀ n, fill f (hole n path).source = fill g (hole n path).source) : f path = g path := by
  have hvalue : ∀ n, (f path).getD (hole n path).source = (g path).getD (hole n path).source := by
    intro n
    have hfill := h n
    rwa [fill_source (sound_hole hpath n), fill_source (sound_hole hpath n)] at hfill
  have hdiffer : (hole 0 path).source ≠ (hole 1 path).source := fun he => by
    simpa [hole, Placeholder.source] using congrArg List.length he
  have hfirst := hvalue 0
  have hsecond := hvalue 1
  -- a value stands in place of both, and the placeholders themselves are not the same text
  cases hf : f path <;> cases hg : g path <;> simp_all

end Parameters

namespace Placeholder

theorem firm_source (p : Placeholder) : Text.Firm p.source where
  first := ⟨'\x7b', '\x7b' :: p.body, p.source_eq, by decide⟩
  last := ⟨openMark ++ p.lead ++ p.path ++ p.trail ++ ['\x7d'], '\x7d',
    by simp [source, closeMark], by decide⟩

theorem heading?_source (p : Placeholder) : Markdown.heading? p.source = none := by
  have hbrace : Text.isBlank '\x7b' = false := by decide
  simp [Markdown.heading?, source_eq, hbrace]

end Placeholder

theorem Markdown.splitLeadingHeading_line {cs : List Char} (hfirm : Text.Firm cs)
    (hline : '\n' ∉ cs) (hheading : heading? cs = none) :
    splitLeadingHeading (String.ofList cs) = (none, String.ofList cs) := by
  simp [splitLeadingHeading, Text.lines_of_notMem hline hfirm.ne_nil, hfirm.not_allBlank, hheading,
    trimmed, hfirm.trim]

namespace Assembly

variable (a : Assembly)

/-- A folder with one text in the file that stands for the folder. -/
def placed (cs : List Char) : FileSystem :=
  ⟨fun _ => .ok (String.ofList cs), fun _ => .ok [], fun _ => .error .notFound⟩

theorem leaf_placed {cs : List Char} (hfirm : Text.Firm cs) (hline : '\n' ∉ cs)
    (hheading : Markdown.heading? cs = none) (area : Area) (p : Path) :
    Leaf.ofText area.kind (String.ofList cs) ∈
      SectionItem.leavesAll (a.bare.folderItems (placed cs) area [p]) := by
  have hnames : ((a.bare.reader area).fileNames (a.bare.locate p)).result (placed cs) = .ok [] := by
    simp [FolderReader.result_fileNames, placed, FolderReader.sortNames, Except.mapError, Except.map]
  have hne : String.ofList cs ≠ "" := by simpa using hfirm.ne_nil
  have hhead : (a.bare.reader area).headAt (placed cs) (a.bare.locate p) =
      ((a.bare.reader area).newSection (FolderReader.defaultTitle (a.bare.locate p))).append
        (.text (String.ofList cs)) := by
    simp [FolderReader.headAt, placed, FolderReader.headSection,
      Markdown.splitLeadingHeading_line hfirm hline hheading, FolderReader.addBody, hne]
  rw [folderItems, run_sections, List.map_singleton, FolderReader.run_loadAll]
  simp only [List.filterMap_cons, FolderReader.result_load, hnames]
  change _ ∈ SectionItem.leavesAll
    [((a.bare.reader area).sectionAt (placed cs) (a.bare.locate p) []).toItem]
  rw [FolderReader.sectionAt, hhead]
  exact List.mem_cons_self

theorem result_folders (files : FileSystem) (p : Prompt) (area : Area) (ps : List Path) :
    (a.perform p (.folders area ps)).result files =
      .ok (p.extend area (a.folderItems files area ps)) := by
  rw [perform, Attempt.result_bind, Attempt.result_lift]
  simp only [addSections_eq]
  rfl

/-- Whatever folders are put in, all their titles and texts are filled with the parameters. -/
def FillsFolders (params : Parameters) : Prop :=
  ∀ files p area ps, ∃ items,
    (a.perform p (.folders area ps)).result files = .ok (p.extend area items) ∧
      SectionItem.AllFilled items (Parameters.filled params) (a.bare.folderItems files area ps)

theorem fillsFolders_own : a.FillsFolders (a.folders.parameters.onto a.parameters) := by
  intro files p area ps
  refine ⟨_, a.result_folders files p area ps, ?_⟩
  rw [← Parameters.substitute_eq_filled]
  exact a.filled_folderItems files area ps

theorem FillsFolders.filled_line {a : Assembly} {params : Parameters} (h : a.FillsFolders params)
    {cs : List Char} (hfirm : Text.Firm cs) (hline : '\n' ∉ cs)
    (hheading : Markdown.heading? cs = none) : Parameters.filled params (String.ofList cs) =
      Parameters.filled (a.folders.parameters.onto a.parameters) (String.ofList cs) := by
  have hleaf := a.leaf_placed hfirm hline hheading .context ⟨"."⟩
  obtain ⟨items, hitems, hfilled⟩ := h (placed cs) .empty .context [⟨"."⟩]
  obtain ⟨own, hown, hfilledOwn⟩ := a.fillsFolders_own (placed cs) .empty .context [⟨"."⟩]
  have hsame : items = own := Prompt.extend_inj (Except.ok.inj (hitems.symm.trans hown))
  subst hsame
  have htext := hfilled.text_eq hfilledOwn _ hleaf
  rwa [Leaf.ofText] at htext

theorem fillsFolders_iff {params : Parameters} : a.FillsFolders params ↔
    ∀ path, Placeholder.IsPath path → Parameters.value (some params) path =
      Parameters.value (some (a.folders.parameters.onto a.parameters)) path := by
  constructor
  · intro hfills path hpath
    refine Parameters.value_of_fill hpath fun n => ?_
    have htext := hfills.filled_line (Parameters.hole n path).firm_source
      (Parameters.notMem_hole hpath n) (Parameters.hole n path).heading?_source
    simpa [Parameters.filled] using congrArg String.toList htext
  · intro hvalue
    have hsame : Parameters.filled params =
        Parameters.filled (a.folders.parameters.onto a.parameters) := by
      funext text
      rw [Parameters.filled, Parameters.filled, Parameters.fill_congr hvalue]
    intro files p area ps
    rw [hsame]
    exact a.fillsFolders_own files p area ps

/-- Folders are filled with both layers of parameters, and where both have a key that of the folders
comes first. Filled with that of the assembly first they are exactly if the two layers have the same
values for the paths that begin with a key of both. -/
theorem folders_layers : a.FillsFolders (a.folders.parameters.onto a.parameters) ∧
    (∀ path, Parameters.value (some (a.folders.parameters.onto a.parameters)) path =
      if (a.folders.parameters.find? (Parameters.keyOf path)).isSome then
        Parameters.value (some a.folders.parameters) path
      else Parameters.value (some a.parameters) path) ∧
    (a.FillsFolders (a.parameters.onto a.folders.parameters) ↔
      ∀ path, Placeholder.IsPath path → (a.parameters.find? (Parameters.keyOf path)).isSome →
        (a.folders.parameters.find? (Parameters.keyOf path)).isSome →
        Parameters.value (some a.parameters) path =
          Parameters.value (some a.folders.parameters) path) := by
  refine ⟨a.fillsFolders_own, Parameters.value_onto _ _, ?_⟩
  rw [fillsFolders_iff]
  exact forall₂_congr fun _ _ => Parameters.value_onto_comm_iff

def twoTones : Assembly :=
  { standard with
    parameters := Dict.empty.insert "tone" (.str "plain")
    folders := { FolderOptions.standard with
      parameters := Dict.empty.insert "tone" (.str "formal") } }

/-- What the assembly says of the tone does not come before what its folders say. -/
theorem assembly_not_first :
    ¬ ∀ a : Assembly, a.FillsFolders (a.parameters.onto a.folders.parameters) := by
  intro hfills
  have hpath : Placeholder.IsPath "tone".toList := rfl
  have htext := (hfills twoTones).filled_line (Parameters.hole 0 "tone".toList).firm_source
    (Parameters.notMem_hole hpath 0) (Parameters.hole 0 "tone".toList).heading?_source
  exact absurd htext (by decide)

end Assembly
end PromptWeave
