import PromptWeave.Proofs.Prompt.Restoring
import PromptWeave.Recipe.Basic

/-! Recipes from their JSON form.
No form of an entry is written with a field that a form before it needs, so an entry is read in the
form in which it was written, and a list of entries is never taken for a single one. -/
namespace PromptWeave
open Json

/-! ### Paths and overrides -/

theorem Path.restores (p : Path) : Restores Path.decode Path.encode p :=
  fun r hr => bind_eq_ok.mpr ⟨p.text, restores_string p.text r hr, rfl⟩

theorem Path.encode_ne_null (p : Path) : p.encode ≠ .null := by simp [encode]

theorem Path.distinctKeys_encodes (ps : List Path) :
    (Json.arr (ps.map Path.encode)).distinctKeys = true := by
  refine distinctKeys_arr.mpr fun v hv => ?_
  obtain ⟨p, -, rfl⟩ := List.mem_map.mp hv
  rfl

namespace Overrides

theorem encode_ne_null (o : Overrides) : o.encode ≠ .null := by simp [encode]

theorem distinctKeys_encode (o : Overrides) : o.encode.distinctKeys = true := by
  have hallow : (Json.bool o.allowFull).distinctKeys = true := rfl
  exact distinctKeys_obj.mpr ⟨by simp, by simp [Path.distinctKeys_encodes, hallow]⟩

theorem restores (o : Overrides) : Restores Overrides.decode Overrides.encode o := by
  intro r hr
  change Spells (object [
    ("directories", some (.arr (o.directories.map Path.encode))),
    ("allow_full_override", some (.bool o.allowFull))]) r at hr
  have hkeys : fieldNames.Nodup := by decide
  have hspelling : ∀ key ∈ fieldNames, spelling key = key := by decide
  obtain ⟨record, hread, hshows⟩ := hr.ofRaw hkeys hspelling fieldNames
  have hdirectories := hshows.withDefault "directories" (by decide) (by simp)
    (restores_list fun p (_ : p ∈ o.directories) => Path.restores p) []
  have hallow := hshows.withDefault "allow_full_override" (by decide) (by simp)
    (restores_bool o.allowFull) false
  exact bind_eq_ok.mpr ⟨record, hread, bind_eq_ok.mpr ⟨_, hdirectories,
    bind_eq_ok.mpr ⟨_, hallow, rfl⟩⟩⟩

end Overrides

/-! ### Entries -/

namespace RecipeEntry

section
variable {fs : List (String × Option Json)} {r : Raw}

/-- An object is no text, so the other forms are tried in their order. -/
theorem decodeForms_of_spells (h : Spells (object fs) r) (hfs : (fs.map (·.1)).Nodup) :
    decodeForms r = (decodePath r <|> decodeDirectories r <|> decodeInline r) := by
  obtain ⟨fields, rfl, -⟩ := h.obj (nodup_object hfs)
  rfl

theorem decodePath_of_absent (h : Spells (object fs) r) (hfs : (fs.map (·.1)).Nodup)
    (hpath : ("path", none) ∈ fs) : decodePath r = .error (.missing "path") := by
  obtain ⟨record, hread, hshows⟩ := h.ofObject hfs (fun _ _ => rfl) ["path"]
  have hmissing := hshows.required_missing "path" (by simp) hpath Path.decode
  exact bind_eq_error.mpr (Or.inr ⟨record, hread, bind_eq_error.mpr (Or.inl hmissing)⟩)

theorem decodeDirectories_of_absent (h : Spells (object fs) r) (hfs : (fs.map (·.1)).Nodup)
    (hdirectories : ("directories", none) ∈ fs) :
    decodeDirectories r = .error (.missing "directories") := by
  obtain ⟨record, hread, hshows⟩ := h.ofObject hfs (fun _ _ => rfl) ["directories"]
  have hmissing := hshows.required_missing "directories" (by simp) hdirectories
    (Decode.list Path.decode)
  exact bind_eq_error.mpr (Or.inr ⟨record, hread, bind_eq_error.mpr (Or.inl hmissing)⟩)

end

theorem restores_path (p : Path) : Restores decodeForms encode (.path p) := by
  intro r hr
  change Spells (object [("path", some p.encode)]) r at hr
  have hkeys : ["path"].Nodup := by decide
  obtain ⟨record, hread, hshows⟩ := hr.ofObject hkeys (fun _ _ => rfl) ["path"]
  have hpath := hshows.required "path" (by simp) (by simp) (Path.restores p)
  have hform : decodePath r = .ok (.path p) :=
    bind_eq_ok.mpr ⟨record, hread, bind_eq_ok.mpr ⟨p, hpath, rfl⟩⟩
  rw [decodeForms_of_spells hr hkeys, hform]
  rfl

theorem restores_directories (ps : List Path) : Restores decodeForms encode (.directories ps) := by
  intro r hr
  change Spells (object [("path", none), ("directories", some (.arr (ps.map Path.encode)))]) r at hr
  have hkeys : ["path", "directories"].Nodup := by decide
  obtain ⟨record, hread, hshows⟩ := hr.ofObject hkeys (fun _ _ => rfl) ["directories"]
  have hdirectories := hshows.required "directories" (by simp) (by simp)
    (restores_list fun p (_ : p ∈ ps) => Path.restores p)
  have hform : decodeDirectories r = .ok (.directories ps) :=
    bind_eq_ok.mpr ⟨record, hread, bind_eq_ok.mpr ⟨ps, hdirectories, rfl⟩⟩
  rw [decodeForms_of_spells hr hkeys, decodePath_of_absent hr hkeys (by simp), hform]
  rfl

theorem restores_inline (t : String) (title : Option String) (weight : Option Weight) :
    Restores decodeForms encode (.inline t title weight) := by
  intro r hr
  change Spells (object [
    ("path", none), ("directories", none),
    ("content", some (.str t)),
    ("title", title.map Json.str),
    ("weight", weight.map fun w => .num (.float w))]) r at hr
  have hkeys : ["path", "directories", "content", "title", "weight"].Nodup := by decide
  obtain ⟨record, hread, hshows⟩ :=
    hr.ofObject hkeys (fun _ _ => rfl) ["content", "title", "weight"]
  have hcontent := hshows.required "content" (by simp) (by simp) (restores_string t)
  have htitle := hshows.optionalOrNone "title" (by simp) (by simp) (by simp)
    fun s (_ : s ∈ title) => restores_string s
  have hweight := hshows.optionalOrNone "weight" (by simp) (by simp) (by simp)
    fun x (_ : x ∈ weight) => restores_real x
  have hform : decodeInline r = .ok (.inline t title weight) :=
    bind_eq_ok.mpr ⟨record, hread, bind_eq_ok.mpr ⟨t, hcontent, bind_eq_ok.mpr ⟨title, htitle,
      bind_eq_ok.mpr ⟨weight, hweight, rfl⟩⟩⟩⟩
  rw [decodeForms_of_spells hr hkeys, decodePath_of_absent hr hkeys (by simp),
    decodeDirectories_of_absent hr hkeys (by simp), hform]
  rfl

theorem restores (e : RecipeEntry) : Restores decodeForms encode e := by
  cases e with
  | text t =>
    intro r hr
    rw [hr.eq_of_plain (by simp [encode]) (by simp [encode])]
    rfl
  | path p => exact restores_path p
  | directories ps => exact restores_directories ps
  | inline t title weight => exact restores_inline t title weight

theorem distinctKeys_encode (e : RecipeEntry) : e.encode.distinctKeys = true := by
  cases e with
  | text t => rfl
  | path p => rfl
  | directories ps => exact distinctKeys_obj.mpr ⟨by simp, by simp [Path.distinctKeys_encodes]⟩
  | inline t title weight => exact distinctKeys_object (by simp) (by simp [distinctKeys])

theorem restores_some (es : List RecipeEntry) :
    Restores decodeSome (fun es => .arr (es.map encode)) es := by
  intro r hr
  have hlist := restores_list (fun e (_ : e ∈ es) => restores e) r hr
  have hsound := hr.sound
  obtain ⟨items, rfl, -⟩ := hr.arr
  rw [decodeSome, hsound]
  exact hlist

end RecipeEntry

/-! ### Recipes -/

namespace Recipe

structure InOrder (r : Recipe) : Prop where
  parameters : Parameters.InOrder r.parameters
  output : ∀ o ∈ r.structuredOutput, o.InOrder

theorem decodeEntries_eq {record : Record} {entries : Area → List RecipeEntry} {as : List Area}
    (h : ∀ a ∈ as, record.withDefault a.name [] RecipeEntry.decodeSome = .ok (entries a)) :
    decodeEntries record as = .ok fun b => if b ∈ as then entries b else [] := by
  induction as with
  | nil => simp [decodeEntries]
  | cons a more ih =>
    obtain ⟨ha, hmore⟩ := List.forall_mem_cons.mp h
    refine bind_eq_ok.mpr ⟨_, ha, bind_eq_ok.mpr ⟨_, ih hmore, ?_⟩⟩
    rw [pure_eq_ok]
    funext b
    by_cases hb : b = a <;> simp [hb]

theorem restores {recipe : Recipe} (h : recipe.InOrder) :
    Restores Recipe.decode Recipe.encode recipe := by
  intro r hr
  have hkeys : fieldNames.Nodup := by decide
  obtain ⟨record, hread, hshows⟩ := hr.record hkeys fieldNames
  have htemplate := hshows.optionalOrNone "template" (by decide) (by simp) (by simp)
    fun s (_ : s ∈ recipe.template) => restores_string s
  have hbase := hshows.optionalOrNone "base_path" (by decide) (by simp) Path.encode_ne_null
    fun p (_ : p ∈ recipe.base) => Path.restores p
  have hparameters := hshows.withDefault "parameters" (by decide) (by simp)
    (Parameters.restores h.parameters) .empty
  have hareas (a : Area) (_ : a ∈ areas) : record.withDefault a.name [] RecipeEntry.decodeSome =
      .ok (recipe.entries a) := by
    refine hshows.withDefault a.name ?_ ?_ (RecipeEntry.restores_some (recipe.entries a)) []
    · cases a <;> decide
    · refine List.mem_append_left _ (List.mem_append_right _ ?_)
      exact List.mem_map.mpr ⟨a, Area.mem_all a, rfl⟩
  have hentries : decodeEntries record areas = .ok recipe.entries := by
    rw [decodeEntries_eq hareas]
    simp [areas, Area.mem_all]
  have hoverrides := hshows.optionalOrNone "overrides" (by decide) (by simp)
    Overrides.encode_ne_null fun o (_ : o ∈ recipe.overrides) => Overrides.restores o
  have houtput := hshows.optionalOrNone "structured_output" (by decide) (by simp)
    StructuredOutput.encode_ne_null fun o ho => StructuredOutput.restores (h.output o ho)
  exact bind_eq_ok.mpr ⟨record, hread, bind_eq_ok.mpr ⟨_, htemplate, bind_eq_ok.mpr ⟨_, hbase,
    bind_eq_ok.mpr ⟨_, hparameters, bind_eq_ok.mpr ⟨_, hentries, bind_eq_ok.mpr ⟨_, hoverrides,
    bind_eq_ok.mpr ⟨_, houtput, rfl⟩⟩⟩⟩⟩⟩⟩

theorem distinctKeys_encode {recipe : Recipe} (h : recipe.InOrder) :
    recipe.encode.distinctKeys = true := by
  have hkeys : fieldNames.Nodup := by decide
  have hparameters := Parameters.distinctKeys_encode h.parameters
  have hentries (a : Area) :
      (Json.arr ((recipe.entries a).map RecipeEntry.encode)).distinctKeys = true := by
    refine distinctKeys_arr.mpr fun v hv => ?_
    obtain ⟨e, -, rfl⟩ := List.mem_map.mp hv
    exact e.distinctKeys_encode
  have houtput : ∀ o ∈ recipe.structuredOutput, o.encode.distinctKeys = true :=
    fun o ho => StructuredOutput.distinctKeys_encode (h.output o ho)
  refine distinctKeys_object hkeys (List.forall_mem_append.mpr ⟨?_, ?_⟩)
  · refine List.forall_mem_append.mpr ⟨?_, fun p hp v hv => ?_⟩
    · simpa [distinctKeys, Path.encode] using hparameters
    · obtain ⟨a, -, rfl⟩ := List.mem_map.mp hp
      cases hv
      exact hentries a
  · simpa [Overrides.distinctKeys_encode] using houtput

theorem yields : Yields Recipe.decode InOrder := by
  intro r recipe h
  simp only [Recipe.decode, bind_eq_ok, pure_eq_ok] at h
  obtain ⟨_, -, _, -, _, -, _, hparameters, _, -, _, -, _, houtput, rfl⟩ := h
  have hempty : Parameters.InOrder .empty := by
    intro p hp
    cases hp
  exact ⟨Parameters.yields.withDefault hempty hparameters,
    StructuredOutput.yields.optionalOrNone houtput⟩

end Recipe

/-! ### Documents -/

/-- What prompts and recipes are written as is read as what they were, and so is what anything that
was read is written as. -/
theorem documents_lossless : RoundTrips Prompt.encode Prompt.decode Prompt.InOrder ∧
    RoundTrips Recipe.encode Recipe.decode Recipe.InOrder :=
  ⟨roundTrips_of_restores (fun _ => Prompt.restores) (fun _ => Prompt.distinctKeys_encode)
      Prompt.yields,
    roundTrips_of_restores (fun _ => Recipe.restores) (fun _ => Recipe.distinctKeys_encode)
      Recipe.yields⟩

def sampleLeaf : Leaf := ⟨.content, "Be brief.", some ⟨false, 1, -1⟩, none, none⟩

def samplePrompt : Prompt := .ofInstructions
  ⟨⟨some "Rules", .instruction, none, none, some .empty⟩,
    [.leaf sampleLeaf, .branch ⟨none, .context, none, none, none⟩ []]⟩

def sampleRecipe : Recipe := { Recipe.empty with
  entries := fun a => if a = .context then [
    .text "Postgres 16", .path ⟨"context.md"⟩, .directories [⟨"docs"⟩],
    .inline "Postgres 16" (some "Database") none] else []
  overrides := some ⟨[⟨"local"⟩], true⟩ }

theorem documents_lossless_sample : samplePrompt.InOrder ∧ sampleRecipe.InOrder ∧
    Prompt.decode (.ofJson samplePrompt.encode) = .ok samplePrompt ∧
    Recipe.decode (.ofJson sampleRecipe.encode) = .ok sampleRecipe := by
  have hprompt : samplePrompt.InOrder := by
    refine ⟨fun a s hs => ?_, fun o ho => by cases ho⟩
    cases a <;> cases hs
    refine ⟨fun params hp => ?_, ?_⟩
    · cases hp
      intro p hp
      cases hp
    · have hleaf : SectionItem.InOrder (.leaf sampleLeaf) := .leaf fun params hp => by cases hp
      have hbranch : SectionItem.InOrder (.branch ⟨none, .context, none, none, none⟩ []) :=
        .branch (fun params hp => by cases hp) (by simp)
      exact List.forall_mem_cons.mpr ⟨hleaf, List.forall_mem_singleton.mpr hbranch⟩
  have hrecipe : sampleRecipe.InOrder := by
    constructor <;> intro x hx <;> cases hx
  exact ⟨hprompt, hrecipe, (documents_lossless.1.written samplePrompt).mpr hprompt,
    (documents_lossless.2.written sampleRecipe).mpr hrecipe⟩

end PromptWeave
