import PromptWeave.Unicode.Named

/-! Names of sets of characters.
In the tables names consist of letters and digits. Any other character of ASCII counts in a name if
it is no filler: nothing is called so. -/
namespace PromptWeave
namespace Unicode

/-- A character that counts in a name but stands in none of the tables. -/
def isForeign (c : Char) : Bool := c.toNat < 128 && !c.isAlphanum && !isFiller c

def familiar (name : String) : Bool := name.toList.all fun c => !isForeign c

theorem familiar_propertyNames : (propertyNames.map (·.1)).all familiar = true := by decide +kernel

theorem familiar_propertyTable : (propertyTable.map (·.1)).all familiar = true := by decide +kernel

theorem familiar_categoryNames : (categoryNames.map (·.1)).all familiar = true := by decide +kernel

theorem familiar_scriptNames : (scriptNames.map (·.1)).all familiar = true := by decide +kernel

theorem familiar_scriptTable : (scriptTable.map (·.1)).all familiar = true := by decide +kernel

theorem familiar_scriptExtensionTable :
    (scriptExtensionTable.map (·.1)).all familiar = true := by decide +kernel

variable {c : Char} (hc : isForeign c = true)

include hc

theorem ne_of_foreign {name other : String} (h : c ∈ name.toList) (hother : familiar other = true) :
    name ≠ other := by
  rintro rfl
  have hfamiliar := List.all_eq_true.mp hother c h
  simp [hc] at hfamiliar

theorem lookup_of_foreign {α : Type} {table : List (String × α)} {name : String}
    (htable : (table.map (·.1)).all familiar = true) (h : c ∈ name.toList) :
    table.lookup name = none := by
  rw [List.lookup_eq_none_iff]
  intro entry hentry
  have hkey : familiar entry.1 = true := List.all_eq_true.mp htable _ (List.mem_map_of_mem hentry)
  simpa using ne_of_foreign hc h hkey

/-! ### Foreign characters in a name count -/

theorem toLower_of_foreign : c.toLower = c := by
  have hupper : c.isUpper ≠ true := by
    intro hupper
    have halnum : c.isAlphanum = (c.isUpper || c.isLower || c.isDigit) := rfl
    simp [isForeign, halnum, hupper] at hc
  exact dif_neg fun hrange => hupper (decide_eq_true hrange)

theorem mem_squeeze {name : List Char} (h : c ∈ name) : c ∈ (squeeze name).toList := by
  have hparts := hc
  simp only [isForeign, Bool.and_eq_true, decide_eq_true_eq, Bool.not_eq_true'] at hparts
  rw [squeeze, String.toList_ofList, List.mem_map]
  exact ⟨c, List.mem_filter.mpr ⟨h, by simp [hparts]⟩, toLower_of_foreign hc⟩

theorem mem_looseName {name : List Char} (h : c ∈ name) : c ∈ (looseName name).toList := by
  rw [looseName]
  split
  · exact mem_squeeze hc h
  next rest hrest =>
    have hmem : c ∈ rest := by
      unfold withoutIs at hrest
      split at hrest
      next a b more =>
        split at hrest
        next hletters =>
          cases hrest
          -- what becomes a letter in lower case is not foreign
          have ha : c ≠ a := by
            rintro rfl
            rw [toLower_of_foreign hc] at hletters
            exact absurd (hletters.1 ▸ hc) (by decide)
          have hb : c ≠ b := by
            rintro rfl
            rw [toLower_of_foreign hc] at hletters
            exact absurd (hletters.2 ▸ hc) (by decide)
          simpa [ha, hb] using h
        next => cases hrest
      next => cases hrest
    have hsqueezed : c ∈ (squeeze rest).toList := mem_squeeze hc hmem
    rw [if_neg (ne_of_foreign hc hsqueezed (by decide))]
    exact hsqueezed

/-! ### Nothing has such a name -/

theorem property?_of_foreign {name : String} (h : c ∈ name.toList) : property? name = none := by
  rw [property?, lookup_of_foreign hc familiar_propertyNames h, Option.getD_none, lookupRanges,
    lookup_of_foreign hc familiar_propertyTable h, Option.map_none]

theorem category?_of_foreign {name : String} (h : c ∈ name.toList) : category? name = none := by
  rw [category?, if_neg (ne_of_foreign hc h (by decide)), if_neg (ne_of_foreign hc h (by decide)),
    if_neg (ne_of_foreign hc h (by decide)), lookup_of_foreign hc familiar_categoryNames h]

theorem script?_of_foreign {name : String} (h : c ∈ name.toList) : script? name = none := by
  rw [script?, scriptName, lookup_of_foreign hc familiar_scriptNames h, Option.getD_none,
    lookupRanges, lookup_of_foreign hc familiar_scriptTable h, Option.map_none]

theorem scriptExtension?_of_foreign {name : String} (h : c ∈ name.toList) :
    scriptExtension? name = none := by
  rw [scriptExtension?, scriptName, lookup_of_foreign hc familiar_scriptNames h, Option.getD_none,
    lookupRanges, lookup_of_foreign hc familiar_scriptExtensionTable h, Option.map_none]
  exact script?_of_foreign hc h

theorem notMem_of_named? {name : List Char} {s : RangeSet} (h : named? name = some s) :
    c ∉ name := by
  intro hmem
  have hloose := mem_looseName hc hmem
  simp [named?, property?_of_foreign hc hloose, category?_of_foreign hc hloose,
    script?_of_foreign hc hloose] at h

theorem notMem_of_valued? {name value : List Char} {s : RangeSet} (h : valued? name value = some s) :
    c ∉ name ∧ c ∉ value := by
  refine ⟨fun hmem => ?_, fun hmem => ?_⟩
  · have hnames : ∀ other ∈ ["gc", "generalcategory", "sc", "script", "scx", "scriptextensions"],
        looseName name ≠ other := fun other hother =>
      ne_of_foreign hc (mem_looseName hc hmem) (List.all_eq_true.mp (by decide) other hother)
    simp only [List.forall_mem_cons, List.not_mem_nil, false_implies, implies_true,
      and_true] at hnames
    simp [valued?, hnames] at h
  · have hloose := mem_looseName hc hmem
    simp [valued?, category?_of_foreign hc hloose, script?_of_foreign hc hloose,
      scriptExtension?_of_foreign hc hloose] at h

end Unicode
end PromptWeave
