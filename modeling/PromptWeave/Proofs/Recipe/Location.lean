import PromptWeave.Proofs.Files.Places
import PromptWeave.Proofs.Files.Steps
import PromptWeave.Proofs.Recipe.Resolving
import PromptWeave.Recipe.Cooking

/-! Where a cooked recipe looks for what its layers name.
Each layer says its paths from its own base, and the base of the whole recipe is then put in front
of those that are still relative. A template therefore keeps to its own base exactly when that base
is absolute or nothing stands in front. -/
namespace PromptWeave

namespace Recipe

theorem rebase_of_relative {p : Path} (base : Path) (hp : p.isAbsolute = false) :
    rebase base p = base.join p := by
  simp [rebase, hp]

theorem rebase_eq_self_iff (base p : Path) :
    rebase base p = p ↔ p.isAbsolute = true ∨ base.text = "" := by
  unfold rebase
  split
  next hp => simp [hp]
  next => exact Path.join_eq_right_iff base p

/-- Where a path is looked for that a layer says from its own base, given the base of all. -/
def seenFrom (merged : Path) (own : Option Path) (p : Path) : Path := rebase merged (saidFrom own p)

/-- A relative path stays below the base of its layer when that base is absolute or the base of
all is empty, and in no other case. -/
theorem seenFrom_eq_join_iff (merged base : Path) {p : Path} (hp : p.isAbsolute = false) :
    seenFrom merged (some base) p = base.join p ↔ base.isAbsolute = true ∨ merged.text = "" := by
  simp only [seenFrom, saidFrom]
  rw [rebase_of_relative base hp, rebase_eq_self_iff, Path.isAbsolute_join, hp, Bool.or_false]

/-- It leads where it leads below the base of its layer when that base is absolute or the base of all
leads nowhere. -/
theorem route_seenFrom_iff (merged base : Path) {p : Path} (hp : p.isAbsolute = false) :
    (seenFrom merged (some base) p).route = (base.join p).route ↔
      base.isAbsolute = true ∨ merged.route = (false, []) := by
  simp only [seenFrom, saidFrom]
  rw [rebase_of_relative base hp, rebase]
  split
  next habs =>
    have hbase : base.isAbsolute = true := by simpa [Path.isAbsolute_join, hp] using habs
    simp [hbase]
  next => rw [Path.route_join_eq_iff, Path.isAbsolute_join, hp, Bool.or_false]

/-! ### Places of entries -/

end Recipe

def RecipeEntry.paths : RecipeEntry → List Path
  | .path p => [p]
  | .directories ps => ps
  | .text _ | .inline _ _ _ => []

@[simp] theorem RecipeEntry.paths_mapPaths (f : Path → Path) (e : RecipeEntry) :
    (e.mapPaths f).paths = e.paths.map f := by
  cases e <;> rfl

namespace Recipe

def pathsIn (r : Recipe) (a : Area) : List Path := (r.entries a).flatMap RecipeEntry.paths

/-- The places where a recipe without templates looks for the files and folders of one area. -/
def placesIn (r : Recipe) (a : Area) : List Path :=
  (r.entries a).flatMap fun e => r.assembly.places (stepOf a e)

theorem places_stepOf (asm : Assembly) (a : Area) (e : RecipeEntry) :
    asm.places (stepOf a e) = e.paths.map asm.locate := by
  cases e <;> rfl

theorem placesIn_eq (r : Recipe) (a : Area) :
    r.placesIn a = (r.pathsIn a).map r.assembly.locate := by
  simp only [placesIn, pathsIn, places_stepOf, List.map_flatMap]

theorem locate_eq_rebase (asm : Assembly) : asm.locate = rebase asm.base := rfl

/-- The override directories of the nearest layer that has some, as they are looked for. -/
def overridePlaces (merged : Path) (r : Recipe) (ts : List Recipe) : List Path :=
  match r.overrides with
  | some o => o.directories.map (seenFrom merged none)
  | none => (ts.findSome? fun t =>
      t.overrides.map fun o => o.directories.map (seenFrom merged t.base)).getD []

theorem placesIn_of_layered {r flat : Recipe} {ts : List Recipe} (h : Layered r ts flat) (a : Area) :
    flat.placesIn a =
      (ts.reverse.flatMap fun t => (t.pathsIn a).map (seenFrom flat.assembly.base t.base)) ++
        (r.pathsIn a).map (rebase flat.assembly.base) := by
  have hpaths : flat.pathsIn a =
      (ts.reverse.flatMap fun t => (t.pathsIn a).map (saidFrom t.base)) ++ r.pathsIn a := by
    simp only [pathsIn, h.entries, List.flatMap_append, List.flatMap_assoc, List.flatMap_map,
      List.map_flatMap, RecipeEntry.paths_mapPaths]
  rw [placesIn_eq, hpaths, locate_eq_rebase, List.map_append, List.map_flatMap]
  simp only [List.map_map]
  rfl

theorem directories_of_layered {r flat : Recipe} {ts : List Recipe} (h : Layered r ts flat) :
    flat.assembly.overrides.directories = overridePlaces flat.assembly.base r ts := by
  have hdirectories : flat.assembly.overrides.directories =
      ((flat.overrides.map Overrides.directories).getD []).map (rebase flat.assembly.base) := by
    cases ho : flat.overrides <;> simp [assembly, ho, Overrides.none]
  have hrebase : ∀ ps? : Option (List Path), (ps?.getD []).map (rebase flat.assembly.base) =
      (ps?.map (List.map (rebase flat.assembly.base))).getD [] := by
    rintro (_ | ps) <;> rfl
  rw [hdirectories, hrebase, h.overrides, overridePlaces]
  cases r.overrides with
  | some o => rfl
  | none =>
    rw [Option.none_or, map_findSome?, map_findSome?]
    simp only [Option.map_map, Function.comp_def, List.map_map]
    rfl

/-- The places that are asked for when a prompt is cooked to the end. -/
theorem mem_asked_cook {files : FileSystem} {r flat : Recipe} {templates : Templates}
    {prompt : Prompt} (hflat : r.resolve templates = .ok flat)
    (h : (r.cook templates).result files = .ok prompt) {a : Area} {q : Path}
    (hq : q ∈ flat.placesIn a) : q ∈ (r.cook templates).asked files := by
  have hcook : r.cook templates = flat.assembly.build flat.steps := by
    rw [cook, hflat]
    rfl
  rw [hcook] at h ⊢
  obtain ⟨e, he, hplace⟩ := List.mem_flatMap.mp hq
  have hstep : stepOf a e ∈ flat.steps :=
    List.mem_append_left _ (List.mem_flatMap.mpr ⟨a, Area.mem_all a, List.mem_map.mpr ⟨e, he, rfl⟩⟩)
  exact Assembly.mem_asked_foldlM h hstep hplace

/-- The places of a cooked recipe, layer by layer: each path is said from the base of its own layer,
and what is then still relative is looked for below the base of all, the nearest that is given. So a
relative path of a template is looked for below the base of its template exactly when that base is
absolute or the base of all is empty, and leads there exactly when the base of all leads nowhere. -/
theorem cooked_places {r flat : Recipe} {templates : Templates}
    (h : r.resolve templates = .ok flat) :
    ∃ ts, Extends templates r.template ts ∧
      flat.assembly.base = ((r :: ts).findSome? Recipe.base).getD ⟨"."⟩ ∧
      (∀ a, flat.placesIn a =
        (ts.reverse.flatMap fun t => (t.pathsIn a).map (seenFrom flat.assembly.base t.base)) ++
          (r.pathsIn a).map (rebase flat.assembly.base)) ∧
      flat.assembly.overrides.directories = overridePlaces flat.assembly.base r ts ∧
      (∀ files prompt, (r.cook templates).result files = .ok prompt →
        ∀ a, ∀ q ∈ flat.placesIn a, q ∈ (r.cook templates).asked files) ∧
      ∀ t ∈ ts, ∀ base, t.base = some base → ∀ p : Path, p.isAbsolute = false →
        (seenFrom flat.assembly.base t.base p = base.join p ↔
          base.isAbsolute = true ∨ flat.assembly.base.text = "") ∧
        ((seenFrom flat.assembly.base t.base p).route = (base.join p).route ↔
          base.isAbsolute = true ∨ flat.assembly.base.route = (false, [])) := by
  obtain ⟨ts, hts, hlayered⟩ := resolve_extends h
  refine ⟨ts, hts, ?base, placesIn_of_layered hlayered, directories_of_layered hlayered, ?asked, ?own⟩
  case base => exact congrArg (·.getD ⟨"."⟩) hlayered.base
  case asked =>
    intro files prompt hcook a q hq
    exact mem_asked_cook h hcook hq
  case own =>
    intro t _ base hbase p hp
    rw [hbase]
    exact ⟨seenFrom_eq_join_iff flat.assembly.base base hp,
      route_seenFrom_iff flat.assembly.base base hp⟩

def ofFileAt (template : Option String) (base : Option Path) (p : Path) : Recipe :=
  { Recipe.empty with
    template, base, entries := fun a => if a = .instructions then [.path p] else [] }

def twoTemplates : Templates := Dict.ofList [
  ("near", ofFileAt (some "far") (some ⟨"/team"⟩) ⟨"near.md"⟩),
  ("far", ofFileAt none (some ⟨"shared"⟩) ⟨"far.md"⟩)]

theorem cooked_places_twoTemplates :
    ∃ flat, (ofFileAt (some "near") (some ⟨"work"⟩) ⟨"own.md"⟩).resolve twoTemplates = .ok flat ∧
      ∃ ts, Extends twoTemplates (some "near") ts ∧
        (ts.reverse.flatMap fun t => (t.pathsIn .instructions).map (seenFrom ⟨"work"⟩ t.base)) ++
            [⟨"work/own.md"⟩] =
          [⟨"work/shared/far.md"⟩, ⟨"/team/near.md"⟩, ⟨"work/own.md"⟩] := by
  have hresolve : (ofFileAt (some "near") (some ⟨"work"⟩) ⟨"own.md"⟩).resolve twoTemplates =
      .ok _ := rfl
  obtain ⟨ts, hts, -, hplaces, -⟩ := cooked_places hresolve
  refine ⟨_, hresolve, ts, hts, ?_⟩
  have hrun := (hplaces .instructions).symm
  exact hrun.trans (by decide)

/-- Without a base of its own a recipe takes that of its template, which is then joined twice. -/
theorem template_base_not_kept :
    ¬ ∀ (r flat : Recipe) (templates : Templates), r.resolve templates = .ok flat →
      ∀ ts, Extends templates r.template ts → ∀ t ∈ ts, ∀ base, t.base = some base →
        ∀ a, ∀ p ∈ t.pathsIn a, p.isAbsolute = false → base.join p ∈ flat.placesIn a := by
  intro hkept
  have hplace := hkept (ofFileAt (some "t") none ⟨"b.md"⟩) _
    (Dict.ofList [("t", ofFileAt none (some ⟨"shared"⟩) ⟨"a.md"⟩)]) rfl _
    ⟨_, .next rfl (.here none), rfl⟩ _ List.mem_cons_self ⟨"shared"⟩ rfl .instructions ⟨"a.md"⟩
    (by decide) (by decide)
  exact absurd hplace (by decide)

end Recipe
end PromptWeave
