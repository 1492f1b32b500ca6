import PromptWeave.Assembly
import PromptWeave.Proofs.Files.Below
import PromptWeave.Proofs.Files.Changes

/-! Override directories that hold no files.
The files that change a prompt file are looked for at its path as seen from each override directory.
A relative path that never leads above its start stays inside the directory, so an empty one changes
nothing. An absolute path leads away from every directory, to the prompt file itself. -/
namespace PromptWeave

namespace Path

theorem cutName_subset (s : List Char) :
    (cutName s).1 ⊆ s ∧ ∀ extension, (cutName s).2 = some extension → extension ⊆ s := by
  unfold cutName
  split_ifs
  · simp
  · split
    next => simp
    next => simp
    next ext stem hne hcut =>
      have hs : s = stem.reverse ++ '.' :: ext.reverse := by
        have hrev := congrArg List.reverse (Text.eq_append_of_cutAt? hcut)
        simpa using hrev
      refine ⟨fun c hc => ?_, fun extension he => ?_⟩
      · rw [hs]
        exact List.mem_append_left _ hc
      · cases he
        intro c hc
        rw [hs]
        exact List.mem_append_right _ (List.mem_cons_of_mem _ hc)

end Path

namespace Overrides

theorem step_of_marked {front mark back : List Char} (hfront : '/' ∉ front) (hmark : '/' ∉ mark)
    (hback : '/' ∉ back) (hlong : 3 ≤ mark.length) :
    '/' ∉ front ++ mark ++ back ∧ Path.isStep (front ++ mark ++ back) = true ∧
      front ++ mark ++ back ≠ ['.', '.'] := by
  have hlength : 3 ≤ (front ++ mark ++ back).length := by
    simp only [List.length_append]
    omega
  have hslash : '/' ∉ front ++ mark ++ back := by simp [hfront, hmark, hback]
  generalize front ++ mark ++ back = name at hlength hslash ⊢
  have hnil : name ≠ [] := by
    rintro rfl
    simp at hlength
  have hdot : name ≠ ['.'] := by
    rintro rfl
    simp at hlength
  refine ⟨hslash, by simp [Path.isStep, hnil, hdot], ?_⟩
  rintro rfl
  simp at hlength

/-- A file is changed by files beside its own place. -/
theorem names?_eq_some {p : Path} {n : Names} (h : names? p = some n) :
    ∃ s before after : List Char, p.fileName = some s ∧
      n = ⟨p.sibling s, p.sibling before, p.sibling after⟩ ∧
      ∀ name ∈ [s, before, after],
        '/' ∉ name ∧ Path.isStep name = true ∧ name ≠ ['.', '.'] := by
  cases hs : p.fileName with
  | none => simp [names?, Path.stem, hs] at h
  | some s =>
    obtain ⟨hname, hstep, hdots, -⟩ := Path.folder_of_fileName hs
    obtain ⟨hstem, hext⟩ := Path.cutName_subset s
    have hextension : '/' ∉ p.extension.getD ['m', 'd'] := by
      cases he : p.extension with
      | none => decide
      | some extension =>
        have hcut : (Path.cutName s).2 = some extension := by
          simpa [Path.extension, hs] using he
        exact fun hmem => hname (hext extension hcut hmem)
    -- both other names have the mark of their kind inside
    have hmarked : ∀ mark : List Char, '/' ∉ mark → 3 ≤ mark.length →
        '/' ∉ (Path.cutName s).1 ++ mark ++ p.extension.getD ['m', 'd'] ∧
          Path.isStep ((Path.cutName s).1 ++ mark ++ p.extension.getD ['m', 'd']) = true ∧
          (Path.cutName s).1 ++ mark ++ p.extension.getD ['m', 'd'] ≠ ['.', '.'] :=
      fun mark hmark hlong => step_of_marked (fun hmem => hname (hstem hmem)) hmark hextension hlong
    refine ⟨s, (Path.cutName s).1 ++ "-pre.".toList ++ p.extension.getD ['m', 'd'],
      (Path.cutName s).1 ++ "-post.".toList ++ p.extension.getD ['m', 'd'], rfl, ?_, ?_⟩
    · simpa [names?, Path.stem, hs, Path.sibling, eq_comm] using h
    · intro name hmem
      simp only [List.mem_cons, List.not_mem_nil, or_false] at hmem
      rcases hmem with rfl | rfl | rfl
      · exact ⟨hname, hstep, hdots⟩
      · exact hmarked _ (by decide) (by decide)
      · exact hmarked _ (by decide) (by decide)

theorem names?_staysBelow {p : Path} {n : Names} (h : names? p = some n) {q : Path}
    (hq : q ∈ n.all) : q.staysBelow = p.staysBelow ∧ Path.stepsOf q.chars ≠ [] := by
  obtain ⟨s, before, after, hs, rfl, hnames⟩ := names?_eq_some h
  obtain ⟨name, hname, rfl⟩ : ∃ name ∈ [s, before, after], q = p.sibling name := by
    simpa [Names.all] using hq
  obtain ⟨hslash, hstep, hdots⟩ := hnames name hname
  refine ⟨Path.staysBelow_sibling hs hslash hstep hdots, ?_⟩
  rw [Path.stepsOf_sibling p hslash hstep]
  simp

theorem names?_isAbsolute {p : Path} {n : Names} (h : names? p = some n) {q : Path}
    (hq : q ∈ n.all) : q.isAbsolute = p.isAbsolute := by
  obtain ⟨s, before, after, hs, rfl, hnames⟩ := names?_eq_some h
  obtain ⟨name, hname, rfl⟩ : ∃ name ∈ [s, before, after], q = p.sibling name := by
    simpa [Names.all] using hq
  exact Path.isAbsolute_sibling hs (hnames name hname).1

/-- From every directory an absolute path is changed by the files beside it and, if that is allowed,
by itself. -/
theorem changesIn_of_absolute {files : FileSystem} {o : Overrides} {parser : Markdown.Options}
    {p : Path} {names : Names} (hn : names? p = some names) (habs : p.isAbsolute = true)
    {s : Section} (hfull : sectionAt? files parser names.full = .ok (some s)) {d : Path}
    {c : Changes} : o.changesIn files parser names d = .ok c ↔
      (c.full = some s ∧ o.allowFull = true) ∧
        itemsAt files parser names.before = .ok c.before ∧
        itemsAt files parser names.after = .ok c.after := by
  have hjoin : ∀ q ∈ names.all, d.join q = q := by
    intro q hq
    rw [Path.join_eq_right_iff, names?_isAbsolute hn hq]
    exact Or.inl habs
  rw [changesIn_eq_ok, fullAt?_eq_ok, hjoin names.full (by simp [Names.all]),
    hjoin names.before (by simp [Names.all]), hjoin names.after (by simp [Names.all]), hfull]
  simp only [Except.ok.injEq]
  refine and_congr_left fun _ => ?_
  constructor
  · rintro ⟨hsome, hnone | hallow⟩
    · cases hsome.trans hnone
    · exact ⟨hsome.symm, hallow⟩
  · rintro ⟨hsome, hallow⟩
    exact ⟨hsome.symm, Or.inr hallow⟩

theorem sectionAt?_of_text {t : FileTree} {working p : Path} {names : Names}
    (hn : names? p = some names) {text : String} (h : (t.system working).text p = .ok text)
    (parser : Markdown.Options) :
    sectionAt? (t.system working) parser names.full = .ok (some (Markdown.parse parser text)) := by
  obtain ⟨s, before, after, hname, rfl, -⟩ := names?_eq_some hn
  have hfull : (t.system working).text (p.sibling s) = .ok text := FileTree.text_sibling hname h
  have hpresent : (t.system working).isFile (p.sibling s) = .ok true :=
    FileTree.isFile_of_text_ok hfull
  simp [sectionAt?, Files.presentAt, hpresent, Markdown.parsedAt, hfull, Bind.bind, Except.bind,
    Except.map, Except.mapError, pure, Except.pure]

end Overrides

namespace Assembly

def withoutOverrides (a : Assembly) : Assembly := { a with overrides := .none }

/-- A prompt file gives what it gives without override directories. -/
def KeepsFile (files : FileSystem) (a : Assembly) (prompt : Prompt) (area : Area) (p : Path) :
    Prop :=
  (a.perform prompt (.file area p)).result files =
    (a.withoutOverrides.perform prompt (.file area p)).result files

theorem result_document (files : FileSystem) (a : Assembly) (area : Area) (p : Path) :
    (a.document area p).result files =
      (Markdown.parsedAt files (a.markdown area) (a.locate p)).bind fun s =>
        (a.overrides.customize (a.markdown area) p s).result files := by
  rw [document, Attempt.result_bind, Markdown.result_parseFile]

theorem result_perform_file (files : FileSystem) (a : Assembly) (prompt : Prompt) (area : Area)
    (p : Path) : (a.perform prompt (.file area p)).result files =
      ((Markdown.parsedAt files (a.markdown area) (a.locate p)).bind fun s =>
        (a.overrides.customize (a.markdown area) p s).result files).map fun s =>
          prompt.updateSection area fun old => addDocument old s := by
  rw [perform, Attempt.result_bind, result_document]
  rfl

theorem result_customize_none (files : FileSystem) (parser : Markdown.Options) (p : Path)
    (s : Section) : (Overrides.none.customize parser p s).result files = .ok s := by
  unfold Overrides.customize
  split <;> rfl

theorem updateSection_inj {prompt : Prompt} {area : Area} {f g : Section → Section} :
    prompt.updateSection area f = prompt.updateSection area g ↔
      f (prompt.sectionOrNew area) = g (prompt.sectionOrNew area) := by
  constructor
  · intro h
    have hsection := congrArg (fun q => q.section? area) h
    simpa [Prompt.updateSection] using hsection
  · intro h
    rw [Prompt.updateSection, Prompt.updateSection, h]

theorem addDocument_inj {old s t : Section} (h : s.head = t.head) :
    addDocument old s = addDocument old t ↔ s = t := by
  constructor
  · intro heq
    have hitems : s.items = t.items := by
      unfold addDocument at heq
      rw [h] at heq
      cases ht : t.head.title with
      | none => simpa [ht, Section.extendFrom] using heq
      | some title =>
        simp only [ht, Section.append, Section.appendWith, Section.itemOf, Section.mk.injEq,
          List.append_cancel_left_eq, List.cons.injEq, SectionItem.branch.injEq] at heq
        exact heq.2.1.2
    cases s
    cases t
    simp_all
  · rintro rfl
    rfl

variable {files : FileSystem} {a : Assembly} {prompt : Prompt} {area : Area} {p : Path}

theorem keepsFile_of_unreadable {e : OsError} (h : files.text (a.locate p) = .error e) :
    KeepsFile files a prompt area p := by
  have hparsed : ∀ b : Assembly, b.locate p = a.locate p →
      Markdown.parsedAt files (b.markdown area) (b.locate p) =
        .error (.fileRead (a.locate p) e) := by
    intro b hb
    rw [Markdown.parsedAt, hb, h]
    rfl
  rw [KeepsFile, result_perform_file, result_perform_file, hparsed a rfl,
    hparsed a.withoutOverrides rfl]
  rfl

theorem keepsFile_of_nameless (hn : Overrides.names? p = none) :
    KeepsFile files a prompt area p := by
  have hcustomize : ∀ b : Assembly, ∀ s,
      (b.overrides.customize (b.markdown area) p s).result files = .ok s := by
    intro b s
    rw [Overrides.customize, hn]
    rfl
  rw [KeepsFile, result_perform_file, result_perform_file]
  simp only [hcustomize]
  rfl

/-- What a prompt file puts in is kept when the changes of all directories together change nothing
of it. -/
theorem keepsFile_iff {s : Section}
    (hs : Markdown.parsedAt files (a.markdown area) (a.locate p) = .ok s) :
    KeepsFile files a prompt area p ↔
      ∃ s', (a.overrides.customize (a.markdown area) p s).result files = .ok s' ∧
        addDocument (prompt.sectionOrNew area) s' = addDocument (prompt.sectionOrNew area) s := by
  have hs' : Markdown.parsedAt files (a.withoutOverrides.markdown area)
      (a.withoutOverrides.locate p) = .ok s := hs
  rw [KeepsFile, result_perform_file, result_perform_file, hs, hs']
  simp only [Except.bind]
  have hnone : (a.withoutOverrides.overrides.customize (a.withoutOverrides.markdown area) p
      s).result files = .ok s := result_customize_none files _ p s
  rw [hnone]
  cases (a.overrides.customize (a.markdown area) p s).result files with
  | error e => simp [Except.map]
  | ok s' => simp [Except.map, updateSection_inj]

theorem keepsFile_iff_changes {s : Section} {names : Overrides.Names}
    (hs : Markdown.parsedAt files (a.markdown area) (a.locate p) = .ok s)
    (hn : Overrides.names? p = some names) :
    KeepsFile files a prompt area p ↔ ∃ changes, List.Forall₂
        (fun d c => a.overrides.changesIn files (a.markdown area) names d = .ok c)
        a.overrides.directories changes ∧
      addDocument (prompt.sectionOrNew area) (changes.foldl (fun s c => c.apply s) s) =
        addDocument (prompt.sectionOrNew area) s := by
  rw [keepsFile_iff hs]
  constructor
  · rintro ⟨s', hs', hadd⟩
    obtain ⟨changes, hall, rfl⟩ := (Overrides.customize_eq_ok _ _ hn).mp hs'
    exact ⟨changes, hall, hadd⟩
  · rintro ⟨changes, hall, hadd⟩
    exact ⟨_, (Overrides.customize_eq_ok _ _ hn).mpr ⟨changes, hall, rfl⟩, hadd⟩

/-- Where no file can be read in any directory, the file is kept if the directories have nothing at
all in the places of the files that would change it, and only then. -/
theorem keepsFile_iff_absent {s : Section} {names : Overrides.Names}
    (hs : Markdown.parsedAt files (a.markdown area) (a.locate p) = .ok s)
    (hn : Overrides.names? p = some names)
    (htext : ∀ d ∈ a.overrides.directories, ∀ q ∈ names.all, ∀ text,
      files.text (d.join q) ≠ .ok text) :
    KeepsFile files a prompt area p ↔ ∀ d ∈ a.overrides.directories, ∀ q ∈ names.all,
      files.isFile (d.join q) = .error .notFound := by
  rw [keepsFile_iff_changes hs hn]
  constructor
  · rintro ⟨changes, hchanges, -⟩ d hd
    obtain ⟨c, -, hc⟩ := exists_of_forall₂ hchanges hd
    exact Overrides.absent_of_changesIn (htext d hd) hc
  · intro h
    refine ⟨_, forall₂_replicate fun d hd => Overrides.changesIn_of_absent (h d hd), ?_⟩
    rw [foldl_replicate_of_eq (Overrides.Changes.nothing_apply s)]

/-- Every directory leads an absolute path to the file itself, which is its own full override then. -/
theorem keepsFile_iff_absolute {s : Section} {names : Overrides.Names}
    (hs : Markdown.parsedAt files (a.markdown area) (a.locate p) = .ok s)
    (hn : Overrides.names? p = some names) (habs : p.isAbsolute = true)
    (hfull : Overrides.sectionAt? files (a.markdown area) names.full = .ok (some s))
    (hd : a.overrides.directories ≠ []) :
    KeepsFile files a prompt area p ↔ a.overrides.allowFull = true ∧
      Overrides.itemsAt files (a.markdown area) names.before = .ok [] ∧
      Overrides.itemsAt files (a.markdown area) names.after = .ok [] := by
  have hchanges := fun d c =>
    Overrides.changesIn_of_absolute (o := a.overrides) (d := d) (c := c) hn habs hfull
  rw [keepsFile_iff_changes hs hn]
  constructor
  · rintro ⟨changes, hall, hadd⟩
    obtain ⟨d, ds, hds⟩ := List.exists_cons_of_ne_nil hd
    rw [hds] at hall
    obtain ⟨c, cs, hc, hcs, rfl⟩ := List.forall₂_cons_left_iff.mp hall
    obtain ⟨⟨hcfull, hallow⟩, hbefore, hafter⟩ := (hchanges d c).mp hc
    -- each directory starts anew from the file, so the last alone counts
    have hsame : ∀ c' ∈ c :: cs, c' = c := by
      intro c' hc'
      obtain ⟨d', -, hd'⟩ := exists_of_forall₂ hall.flip hc'
      obtain ⟨⟨hfull', -⟩, hbefore', hafter'⟩ := (hchanges d' c').mp hd'
      cases c
      cases c'
      simp_all
    rw [List.eq_replicate_of_mem hsame, List.length_cons,
      Overrides.Changes.foldl_replicate_of_full hcfull, addDocument_inj (by rfl),
      Overrides.Changes.around_eq_iff] at hadd
    exact ⟨hallow, hadd.1 ▸ hbefore, hadd.2 ▸ hafter⟩
  · rintro ⟨hallow, hbefore, hafter⟩
    refine ⟨_, forall₂_replicate fun d hd =>
      (hchanges d ⟨some s, [], []⟩).mpr ⟨⟨rfl, hallow⟩, hbefore, hafter⟩, ?_⟩
    rw [foldl_replicate_of_eq (by simp [Overrides.Changes.apply])]

/-- Override directories without files change nothing of a prompt file whose path is relative and
never leads above its start, unless something else stands in the places of the files that would
change it. A file with an absolute path is kept only if full overrides are allowed and the files
beside it add nothing. In every other case the changes found outside the directories decide. -/
theorem keepsFile_withoutFiles (t : FileTree) (working : Path) (a : Assembly) (prompt : Prompt)
    (area : Area) (p : Path) (hd : a.overrides.directories ≠ [])
    (hempty : ∀ d ∈ a.overrides.directories, t.HoldsNoFiles (FileTree.placeOf working) d) :
    (∀ e, (t.system working).text (a.locate p) = .error e →
      KeepsFile (t.system working) a prompt area p) ∧
    (Overrides.names? p = none → KeepsFile (t.system working) a prompt area p) ∧
    ∀ text, (t.system working).text (a.locate p) = .ok text →
      ∀ names, Overrides.names? p = some names →
        (p.staysBelow = true →
          (KeepsFile (t.system working) a prompt area p ↔
            ∀ d ∈ a.overrides.directories, ∀ q ∈ names.all,
              (t.system working).isFile (d.join q) = .error .notFound) ∧
          ((∀ d ∈ a.overrides.directories, t.HoldsNothing (FileTree.placeOf working) d ∧
              ∀ q ∈ names.all, FileTree.WithinLimits (d.join q)) →
            KeepsFile (t.system working) a prompt area p)) ∧
        (p.isAbsolute = true →
          (KeepsFile (t.system working) a prompt area p ↔ a.overrides.allowFull = true ∧
            Overrides.itemsAt (t.system working) (a.markdown area) names.before = .ok [] ∧
            Overrides.itemsAt (t.system working) (a.markdown area) names.after = .ok [])) ∧
        (KeepsFile (t.system working) a prompt area p ↔ ∃ changes,
          List.Forall₂ (fun d c =>
            a.overrides.changesIn (t.system working) (a.markdown area) names d = .ok c)
            a.overrides.directories changes ∧
          addDocument (prompt.sectionOrNew area)
              (changes.foldl (fun s c => c.apply s) (Markdown.parse (a.markdown area) text)) =
            addDocument (prompt.sectionOrNew area) (Markdown.parse (a.markdown area) text)) := by
  refine ⟨fun e he => keepsFile_of_unreadable he, fun hn => ?nameless, ?named⟩
  case nameless => exact keepsFile_of_nameless hn
  case named =>
    intro text htext names hn
    have hs : Markdown.parsedAt (t.system working) (a.markdown area) (a.locate p) =
        .ok (Markdown.parse (a.markdown area) text) := by
      rw [Markdown.parsedAt, htext]
      rfl
    refine ⟨fun hbelow => ?below, fun habs => ?absolute, ?any⟩
    case below =>
      have hiff : KeepsFile (t.system working) a prompt area p ↔
          ∀ d ∈ a.overrides.directories, ∀ q ∈ names.all,
            (t.system working).isFile (d.join q) = .error .notFound :=
        keepsFile_iff_absent hs hn fun d hd q hq =>
          FileTree.text_join_ne_ok (hempty d hd)
            ((Overrides.names?_staysBelow hn hq).1.trans hbelow)
      refine ⟨hiff, fun hbare => hiff.mpr fun d hd q hq => ?_⟩
      obtain ⟨hsame, hstep⟩ := Overrides.names?_staysBelow hn hq
      exact FileTree.isFile_join_bare (hbare d hd).1 (hsame.trans hbelow) hstep
        ((hbare d hd).2 q hq)
    case absolute =>
      have hlocate : a.locate p = p := by simp [locate, habs]
      rw [hlocate] at htext
      exact keepsFile_iff_absolute hs hn habs (Overrides.sectionAt?_of_text hn htext _) hd
    case any => exact keepsFile_iff_changes hs hn

def fileAndDirectory : FileTree := ⟨[(["a.md"], .file "Be brief.".toUTF8), (["local"], .directory)]⟩

def withLocal (allowFull : Bool) : Assembly :=
  { standard with overrides := ⟨[⟨"local"⟩], allowFull⟩ }

theorem follow_local : fileAndDirectory.follow [] ⟨"local/."⟩ = .ok ["local"] := by decide

theorem entry?_below_local {below : List String} {e : FileEntry}
    (h : fileAndDirectory.entry? ("local" :: below) = some e) : below = [] ∧ e = .directory := by
  cases below with
  | nil =>
    have hlocal : fileAndDirectory.entry? ["local"] = some .directory := rfl
    exact ⟨rfl, Option.some.inj (h.symm.trans hlocal)⟩
  | cons name more => simp [FileTree.entry?, fileAndDirectory, List.lookup_cons] at h

theorem holdsNoFiles_local : fileAndDirectory.HoldsNoFiles [] ⟨"local"⟩ := by
  change fileAndDirectory.AtDirectory [] ⟨"local"⟩ _
  have hjoin : (⟨"local"⟩ : Path).join ⟨"."⟩ = ⟨"local/."⟩ := by decide
  rw [FileTree.AtDirectory, hjoin, follow_local]
  exact fun below e h => (entry?_below_local h).2

theorem holdsNoFiles_withLocal (allowFull : Bool) :
    ∀ d ∈ (withLocal allowFull).overrides.directories,
      fileAndDirectory.HoldsNoFiles (FileTree.placeOf ⟨""⟩) d := by
  intro d hd
  have he : d = ⟨"local"⟩ := by simpa [withLocal] using hd
  exact he ▸ holdsNoFiles_local

theorem keepsFile_withoutFiles_local :
    ¬ KeepsFile (fileAndDirectory.system ⟨""⟩) (withLocal false) .empty .instructions ⟨"/a.md"⟩ ∧
      KeepsFile (fileAndDirectory.system ⟨""⟩) (withLocal true) .empty .instructions ⟨"/a.md"⟩ := by
  have habsolute := fun allowFull =>
    ((keepsFile_withoutFiles fileAndDirectory ⟨""⟩ (withLocal allowFull) .empty .instructions
      ⟨"/a.md"⟩ (by simp [withLocal]) (holdsNoFiles_withLocal allowFull)).2.2 "Be brief."
        (by cases allowFull <;> decide) _ rfl).2.1 rfl
  refine ⟨fun h => ?_, (habsolute true).mpr ⟨rfl, ?_, ?_⟩⟩
  · cases ((habsolute false).mp h).1
  · decide
  · decide

/-- A path that leads away from the override directories makes a file its own full override. -/
theorem absoluteFile_not_kept :
    ¬ ∀ (t : FileTree) (working : Path) (a : Assembly) (prompt : Prompt) (area : Area) (p : Path),
      a.overrides.directories ≠ [] →
      (∀ d ∈ a.overrides.directories, t.HoldsNoFiles (FileTree.placeOf working) d) →
      KeepsFile (t.system working) a prompt area p := by
  intro hkept
  have hfile := hkept fileAndDirectory ⟨""⟩ (withLocal false) .empty .instructions ⟨"/a.md"⟩
    (by simp [withLocal]) (holdsNoFiles_withLocal false)
  have hown := (keepsFile_iff_absolute (s := Markdown.parse (.plain .instruction) "Be brief.")
    (by rfl) rfl rfl (by rfl) (by simp [withLocal])).mp hfile
  cases hown.1

end Assembly

end PromptWeave
