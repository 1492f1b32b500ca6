import PromptWeave.Proofs.Regex.Grammar

/-! The nodes of a pattern at any depth.
All of them were read by the rules, and in the same mode unless a node switches it. -/
namespace PromptWeave
namespace Regex

namespace Node

mutual
def within : Node → List Node
  | .repeated n s q => .repeated n s q :: within n
  | .group opener kind branches => .group opener kind branches :: withinBranches branches
  | .blank s => [.blank s]
  | .atom s a => [.atom s a]
  | .flags s f => [.flags s f]
def withinAll : List Node → List Node
  | [] => []
  | n :: ns => within n ++ withinAll ns
def withinBranches : List (List Node) → List Node
  | [] => []
  | b :: bs => withinAll b ++ withinBranches bs
end

theorem mem_within_self (n : Node) : n ∈ within n := by
  cases n <;> simp [within]

mutual
theorem within_trans {k m : Node} (hm : m ∈ within k) : (n : Node) → k ∈ within n → m ∈ within n
  | .blank s, hk | .atom s a, hk | .flags s f, hk => by
    rw [within, List.mem_singleton] at hk
    rwa [hk] at hm
  | .repeated n s q, hk => by
    rcases List.mem_cons.mp hk with rfl | hk
    · exact hm
    · exact List.mem_cons_of_mem _ (within_trans hm n hk)
  | .group opener kind branches, hk => by
    rcases List.mem_cons.mp hk with rfl | hk
    · exact hm
    · exact List.mem_cons_of_mem _ (withinBranches_trans hm branches hk)
theorem withinAll_trans {k m : Node} (hm : m ∈ within k) :
    (ns : List Node) → k ∈ withinAll ns → m ∈ withinAll ns
  | [], hk => by simp [withinAll] at hk
  | n :: ns, hk => by
    rcases List.mem_append.mp hk with hk | hk
    · exact List.mem_append_left _ (within_trans hm n hk)
    · exact List.mem_append_right _ (withinAll_trans hm ns hk)
theorem withinBranches_trans {k m : Node} (hm : m ∈ within k) :
    (bs : List (List Node)) → k ∈ withinBranches bs → m ∈ withinBranches bs
  | [], hk => by simp [withinBranches] at hk
  | b :: bs, hk => by
    rcases List.mem_append.mp hk with hk | hk
    · exact List.mem_append_left _ (withinAll_trans hm b hk)
    · exact List.mem_append_right _ (withinBranches_trans hm bs hk)
end

@[simp] theorem withinAll_append (xs ys : List Node) :
    withinAll (xs ++ ys) = withinAll xs ++ withinAll ys := by
  induction xs with
  | nil => rfl
  | cons x xs ih => simp [withinAll, ih]

@[simp] theorem withinBranches_append (bs cs : List (List Node)) :
    withinBranches (bs ++ cs) = withinBranches bs ++ withinBranches cs := by
  induction bs with
  | nil => rfl
  | cons b bs ih => simp [withinBranches, ih]

@[simp] theorem mem_withinAll_reverse {m : Node} {ns : List Node} :
    m ∈ withinAll ns.reverse ↔ m ∈ withinAll ns := by
  induction ns with
  | nil => rfl
  | cons n ns ih => simp [withinAll, ih, or_comm]

@[simp] theorem mem_withinBranches_reverse {m : Node} {bs : List (List Node)} :
    m ∈ withinBranches bs.reverse ↔ m ∈ withinBranches bs := by
  induction bs with
  | nil => rfl
  | cons b bs ih => simp [withinBranches, ih, or_comm]

/-- Whether blanks count behind a node, or inside a group. -/
def verboseBehind (verbose : Bool) : Node → Bool
  | .flags _ fs => fs.state .verbose verbose
  | .group _ kind _ => verboseIn verbose kind
  | .blank _ | .atom _ _ | .repeated _ _ _ => verbose

end Node

open Node

def withinSoFar (done : Branches) (now : List Node) : List Node :=
  withinBranches done ++ withinAll now

theorem mem_withinSoFar_cons {m n : Node} {done : Branches} {now : List Node} :
    m ∈ withinSoFar done (n :: now) ↔ m ∈ within n ∨ m ∈ withinSoFar done now := by
  simp only [withinSoFar, withinAll, List.mem_append]
  exact or_left_comm

theorem mem_withinSoFar_bar {m : Node} {done : Branches} {now : List Node} :
    m ∈ withinSoFar (now.reverse :: done) [] ↔ m ∈ withinSoFar done now := by
  simp [withinSoFar, withinBranches, withinAll, or_comm]

theorem mem_withinSoFar_end {m : Node} {done : Branches} {now : List Node} :
    m ∈ withinBranches (now.reverse :: done).reverse ↔ m ∈ withinSoFar done now := by
  rw [mem_withinBranches_reverse, ← mem_withinSoFar_bar]
  simp [withinSoFar, withinAll]

theorem mem_withinSoFar_withBlank {m : Node} {done : Branches} {blank : List Char}
    {now : List Node} : m ∈ withinSoFar done (withBlank blank now) ↔
      (blank ≠ [] ∧ m = .blank blank) ∨ m ∈ withinSoFar done now := by
  unfold withBlank
  split_ifs with hblank
  · simp [List.isEmpty_iff.mp hblank]
  · have hne : blank ≠ [] := fun he => hblank (by simp [he])
    simp [mem_withinSoFar_cons, within, hne]

variable {verbose : Bool} {done branches : Branches} {now : List Node} {cs rest : List Char}

theorem Reads.mem_of_soFar (h : Reads verbose done now cs branches rest) {m : Node}
    (hm : m ∈ withinSoFar done now) : m ∈ withinBranches branches := by
  have hblank : ∀ {done blank now}, m ∈ withinSoFar done now →
      m ∈ withinSoFar done (withBlank blank now) :=
    fun hm => mem_withinSoFar_withBlank.mpr (Or.inr hm)
  induction h with
  | ends _ _ => exact mem_withinSoFar_end.mpr (hblank hm)
  | bar _ _ ih => exact ih (mem_withinSoFar_bar.mpr (hblank hm))
  | atom _ _ _ ih => exact ih (mem_withinSoFar_cons.mpr (Or.inr (hblank hm)))
  | flags _ _ _ ih => exact ih (mem_withinSoFar_cons.mpr (Or.inr (hblank hm)))
  | repeated _ _ ih =>
    rcases mem_withinSoFar_cons.mp hm with hn | hbefore
    · exact ih (mem_withinSoFar_cons.mpr (Or.inl (List.mem_cons_of_mem _ hn)))
    · exact ih (mem_withinSoFar_cons.mpr (Or.inr hbefore))
  | group _ _ _ _ _ ih => exact ih (mem_withinSoFar_cons.mpr (Or.inr (hblank hm)))

theorem Reads.proper (modes : Bool → Prop) (h : Reads verbose done now cs branches rest)
    (hverbose : modes verbose)
    (hbehind : ∀ m ∈ withinBranches branches, ∀ v, modes v → modes (m.verboseBehind v))
    (hsoFar : ∀ m ∈ withinSoFar done now, ∃ v, modes v ∧ m.Proper v) :
    ∀ m ∈ withinBranches branches, ∃ v, modes v ∧ m.Proper v := by
  have hblank : ∀ {verbose blank done now}, Gap verbose blank → modes verbose →
      (∀ m ∈ withinSoFar done now, ∃ v, modes v ∧ m.Proper v) →
      ∀ m ∈ withinSoFar done (withBlank blank now), ∃ v, modes v ∧ m.Proper v := by
    intro verbose blank done now hgap hmode hsoFar m hm
    rcases mem_withinSoFar_withBlank.mp hm with ⟨hne, rfl⟩ | hbefore
    · exact ⟨verbose, hmode, hne, hgap⟩
    · exact hsoFar m hbefore
  have hcons : ∀ {n done now}, (∀ m ∈ within n, ∃ v, modes v ∧ m.Proper v) →
      (∀ m ∈ withinSoFar done now, ∃ v, modes v ∧ m.Proper v) →
      ∀ m ∈ withinSoFar done (n :: now), ∃ v, modes v ∧ m.Proper v := by
    intro n done now hn hsoFar m hm
    exact (mem_withinSoFar_cons.mp hm).elim (hn m) (hsoFar m)
  induction h with
  | ends hgap _ => exact fun m hm => hblank hgap hverbose hsoFar m (mem_withinSoFar_end.mp hm)
  | bar hgap _ ih =>
    exact ih hverbose hbehind fun m hm =>
      hblank hgap hverbose hsoFar m (mem_withinSoFar_bar.mp hm)
  | atom hgap hproper _ ih =>
    refine ih hverbose hbehind (hcons ?_ (hblank hgap hverbose hsoFar))
    rw [within]
    exact List.forall_mem_singleton.mpr ⟨_, hverbose, hproper⟩
  | @flags verbose _ _ _ s fs _ _ _ hgap hproper hrest ih =>
    have hself : .flags s fs ∈ withinBranches _ :=
      hrest.mem_of_soFar (mem_withinSoFar_cons.mpr (Or.inl (mem_within_self _)))
    refine ih (hbehind _ hself verbose hverbose) hbehind
      (hcons ?_ (hblank hgap hverbose hsoFar))
    rw [within]
    exact List.forall_mem_singleton.mpr ⟨_, hverbose, hproper⟩
  | repeated hproper _ ih =>
    have hbefore := fun m hm => hsoFar m (mem_withinSoFar_cons.mpr (Or.inr hm))
    have hn := fun m hm => hsoFar m (mem_withinSoFar_cons.mpr (Or.inl hm))
    refine ih hverbose hbehind (hcons ?_ hbefore)
    rw [within]
    exact List.forall_mem_cons.mpr ⟨⟨_, hverbose, hproper⟩, hn⟩
  | @group verbose _ _ _ opener kind _ inner _ _ _ hgap hproper _ hrest ihinside ih =>
    have hsubset : ∀ m ∈ within (.group opener kind inner), m ∈ withinBranches _ := fun m hm =>
      hrest.mem_of_soFar (mem_withinSoFar_cons.mpr (Or.inl hm))
    have hinner : ∀ m ∈ withinBranches inner, ∃ v, modes v ∧ m.Proper v := by
      refine ihinside (hbehind _ (hsubset _ (mem_within_self _)) verbose hverbose) ?_ ?_
      · exact fun m hm => hbehind m (hsubset m (List.mem_cons_of_mem _ hm))
      · simp [withinSoFar, withinBranches, withinAll]
    refine ih hverbose hbehind (hcons ?_ (hblank hgap hverbose hsoFar))
    rw [within]
    exact List.forall_mem_cons.mpr ⟨⟨_, hverbose, hproper⟩, hinner⟩

theorem proper_of_parse {pattern : List Char} (h : parse pattern = some branches) :
    ∀ m ∈ withinBranches branches, ∃ v, m.Proper v := by
  intro m hm
  obtain ⟨v, -, hproper⟩ := (parse_reads h).proper (fun _ => True) trivial
    (fun _ _ _ _ => trivial) (by simp [withinSoFar, withinBranches, withinAll]) m hm
  exact ⟨v, hproper⟩

/-- Whether a node keeps to what is easily read: blanks count, and none stand in a quantifier, names
and properties are plain, and no brackets stand inside brackets. -/
def Node.plain : Node → Bool
  | .blank _ => true
  | .atom _ a => a.plain
  | .flags _ fs => !fs.state .verbose false
  | .repeated _ s _ => s.all fun c => !Text.isBlank c
  | .group _ kind _ => kind.plainName && !verboseIn false kind

def Node.readable : Node → Bool
  | .repeated _ _ _ => true
  | n => n.plain

theorem Node.readable_of_plain {n : Node} (h : n.plain = true) : n.readable = true := by
  cases n with
  | repeated n s q => rfl
  | _ => exact h

theorem proper_of_parse_readable {pattern : List Char} (h : parse pattern = some branches)
    (hreadable : ∀ m ∈ withinBranches branches, m.readable = true) :
    ∀ m ∈ withinBranches branches, m.Proper false := by
  have hbehind : ∀ m ∈ withinBranches branches, ∀ v, v = false → m.verboseBehind v = false := by
    rintro m hm _ rfl
    have hm' := hreadable m hm
    cases m with
    | flags s fs => simpa [Node.readable, Node.plain, verboseBehind] using hm'
    | group opener kind inner =>
      have hboth : kind.plainName = true ∧ verboseIn false kind = false := by
        simpa [Node.readable, Node.plain] using hm'
      exact hboth.2
    | blank s => rfl
    | atom s a => rfl
    | repeated n s q => rfl
  intro m hm
  obtain ⟨v, rfl, hproper⟩ := (parse_reads h).proper (· = false) rfl hbehind
    (by simp [withinSoFar, withinBranches, withinAll]) m hm
  exact hproper

theorem proper_of_parse_plain {pattern : List Char} (h : parse pattern = some branches)
    (hplain : ∀ m ∈ withinBranches branches, m.plain = true) :
    ∀ m ∈ withinBranches branches, m.Proper false :=
  proper_of_parse_readable h fun m hm => Node.readable_of_plain (hplain m hm)

end Regex
end PromptWeave
