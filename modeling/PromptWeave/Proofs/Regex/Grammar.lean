import PromptWeave.Proofs.Regex.Brackets
import PromptWeave.Proofs.Regex.Operators

/-! The grammar of patterns.
What the reader does to a text is one rule for each kind of part. The parts, written out one behind
the other, are the text that was read. -/
namespace PromptWeave
namespace Regex

/-! ### Parts -/

def Gap (verbose : Bool) (cs : List Char) : Prop :=
  cs = [] ∨ verbose = true ∧ ∃ c more, cs = c :: more ∧ (Text.isBlank c = true ∨ c = '#')

def quantifierMarks : List Char := ['?', '*', '+', '\x7b']

namespace Node

def repeatable : Node → Bool
  | .blank _ | .flags _ _ => false
  | .atom _ _ | .repeated _ _ _ | .group _ _ _ => true

/-- The text of a node, its parts aside, as it is read. An atom is a single character, a backslash
and what belongs to it, or brackets. -/
def Proper (verbose : Bool) : Node → Prop
  | .blank s => s ≠ [] ∧ Gap verbose s
  | .atom s a => ∃ c more, s = c :: more ∧ c ≠ '(' ∧ c ≠ ')' ∧ c ∉ quantifierMarks ∧
      (verbose = false → a.plain = true → (c = '[' ∧ Bracketed more) ∨
        (c = '\\' ∧ ∃ d rest, more = d :: rest ∧ a.Rest rest) ∨
        (c ≠ '[' ∧ c ≠ '\\' ∧ c ≠ '|' ∧ more = []))
  | .flags s _ => ∃ inner, s = '(' :: (inner ++ [')']) ∧ (verbose = false → FlagsText inner)
  | .repeated n s q => n.repeatable = true ∧ ∃ blank c mark, s = blank ++ c :: mark ∧
      Gap verbose blank ∧ c ∈ quantifierMarks ∧ (verbose = false → QuantifierText q c mark)
  | .group opener kind _ => ∃ more, opener = '(' :: more ∧ (verbose = false → kind.Opens more)

end Node

/-! ### Rules -/

/-- Reading the rest of a list of branches. `done` holds the branches before and `now` the nodes of
the current branch, both in reverse. -/
inductive Reads : (verbose : Bool) → (done : Branches) → (now : List Node) → (cs : List Char) →
    (branches : Branches) → (rest : List Char) → Prop
  | ends {verbose done now blank rest} : Gap verbose blank → (∀ c ∈ rest.head?, c = ')') →
      Reads verbose done now (blank ++ rest) ((withBlank blank now).reverse :: done).reverse rest
  | bar {verbose done now blank cs branches rest} : Gap verbose blank →
      Reads verbose ((withBlank blank now).reverse :: done) [] cs branches rest →
      Reads verbose done now (blank ++ '|' :: cs) branches rest
  | atom {verbose done now blank s a cs branches rest} : Gap verbose blank →
      (Node.atom s a).Proper verbose →
      Reads verbose done (.atom s a :: withBlank blank now) cs branches rest →
      Reads verbose done now (blank ++ (s ++ cs)) branches rest
  | flags {verbose done now blank s fs cs branches rest} : Gap verbose blank →
      (Node.flags s fs).Proper verbose →
      Reads (fs.state .verbose verbose) done (.flags s fs :: withBlank blank now) cs branches rest →
      Reads verbose done now (blank ++ (s ++ cs)) branches rest
  | repeated {verbose done n now s q cs branches rest} :
      (Node.repeated n s q).Proper verbose →
      Reads verbose done (.repeated n s q :: now) cs branches rest →
      Reads verbose done (n :: now) (s ++ cs) branches rest
  | group {verbose done now blank opener kind inside inner cs branches rest} : Gap verbose blank →
      (Node.group opener kind inner).Proper verbose →
      Reads (verboseIn verbose kind) [] [] inside inner (')' :: cs) →
      Reads verbose done (.group opener kind inner :: withBlank blank now) cs branches rest →
      Reads verbose done now (blank ++ (opener ++ inside)) branches rest

theorem gap_append (verbose : Bool) (cs : List Char) :
    ∃ blank, cs = blank ++ skip verbose cs ∧ consumed cs (skip verbose cs) = blank ∧
      Gap verbose blank := by
  obtain ⟨blank, he, hblank⟩ := leaves_skip verbose cs
  have hconsumed := consumed_append blank (skip verbose cs)
  rw [← he] at hconsumed
  refine ⟨blank, he, hconsumed, ?_⟩
  cases verbose with
  | false => exact Or.inl (hblank rfl)
  | true =>
    cases blank with
    | nil => exact Or.inl rfl
    | cons c more =>
      refine Or.inr ⟨rfl, c, more, rfl, ?_⟩
      by_contra hc
      obtain ⟨hblank, hhash⟩ := not_or.mp hc
      have hkept : skip true cs = cs := by
        rw [he, skip, if_pos rfl, List.cons_append, dropBlanks, if_neg hblank, if_neg hhash]
      have hlength := congrArg List.length he
      simp only [hkept, List.length_append, List.length_cons] at hlength
      omega

theorem repeatLast_eq_some {source : List Char} {q : Quantifier} {now now' : List Node}
    (h : repeatLast source q now = some now') :
    ∃ n before, now = n :: before ∧ n.repeatable = true ∧ now' = .repeated n source q :: before := by
  cases now with
  | nil => simp [repeatLast] at h
  | cons n before =>
    cases n
    all_goals cases h
    all_goals exact ⟨_, before, rfl, rfl, rfl⟩

theorem consumed_cons_append (c : Char) (used rest : List Char) :
    consumed (c :: (used ++ rest)) rest = c :: used := consumed_append (c :: used) rest

/-! #### What each reader reads is proper -/

theorem bracketed_proper {verbose : Bool} {cs rest : List Char} {a : Atom}
    (h : bracketed verbose cs = some (a, rest)) :
    ∃ used, cs = used ++ rest ∧ (Node.atom ('[' :: used) a).Proper verbose := by
  obtain ⟨used, he, hused⟩ := bracketed_leaves h
  exact ⟨used, he, '[', used, rfl, by decide, by decide, by decide,
    fun hv ha => Or.inl ⟨rfl, hused hv ha⟩⟩

theorem simpleAtom_proper {verbose : Bool} {c : Char} {cs rest : List Char} {a : Atom}
    (h : simpleAtom verbose (c :: cs) = some (a, rest)) (hopen : c ≠ '(') (hclose : c ≠ ')')
    (hbar : c ≠ '|') (hset : c ≠ '[') (hmarks : c ∉ quantifierMarks) :
    ∃ used, cs = used ++ rest ∧ (Node.atom (c :: used) a).Proper verbose := by
  obtain ⟨used, he, hused⟩ := simpleAtom_leaves h
  refine ⟨used, he, c, used, rfl, hopen, hclose, hmarks, fun hv _ => Or.inr ?_⟩
  rcases hused hv with ⟨hback, hform⟩ | ⟨hback, hnil⟩
  · exact Or.inl ⟨hback, hform⟩
  · exact Or.inr ⟨hset, hback, hbar, hnil⟩

theorem quantifier_proper {verbose : Bool} {blank : List Char} {c : Char} {cs rest : List Char}
    {q : Quantifier} (hblank : Gap verbose blank) (hc : c = '?' ∨ c = '*' ∨ c = '+' ∨ c = '\x7b')
    (h : quantifier verbose c cs = some (q, rest)) :
    ∃ mark, cs = mark ++ rest ∧ ∀ n : Node, n.repeatable = true →
      (Node.repeated n (blank ++ c :: mark) q).Proper verbose := by
  obtain ⟨mark, he, hmark⟩ := quantifier_leaves hc h
  have hmarks : c ∈ quantifierMarks := by simpa [quantifierMarks] using hc
  exact ⟨mark, he, fun n hn => ⟨hn, blank, c, mark, rfl, hblank, hmarks, hmark⟩⟩

theorem opening_proper {verbose : Bool} {cs rest : List Char} {o : Opening}
    (h : opening verbose cs = some (o, rest)) :
    (∃ kind opener, o = .group kind ∧ cs = opener ++ rest ∧
      ∀ inner, (Node.group ('(' :: opener) kind inner).Proper verbose) ∨
    ∃ fs inner, o = .flags fs ∧ cs = inner ++ ')' :: rest ∧
      (Node.flags ('(' :: (inner ++ [')'])) fs).Proper verbose := by
  rcases opening_leaves h with ⟨kind, rfl, opener, he, hopener⟩ | ⟨fs, rfl, inner, he, hinner⟩
  · exact Or.inl ⟨kind, opener, rfl, he, fun _ => ⟨opener, rfl, hopener⟩⟩
  · exact Or.inr ⟨fs, inner, rfl, he, inner, rfl, hinner⟩

/-- A successful reader reads by the rules. -/
theorem body_reads {fuel : Nat} {verbose : Bool} {names : List (List Char)} {done : Branches}
    {now : List Node} {cs : List Char} {parsed : Parsed}
    (h : body fuel verbose names done now cs = some parsed) :
    Reads verbose done now cs parsed.branches parsed.rest := by
  induction fuel generalizing verbose names done now cs parsed with
  | zero => simp [body] at h
  | succ fuel ih =>
    obtain ⟨blank, he, hgap, hblank⟩ := gap_append verbose cs
    simp only [body, hgap] at h
    split at h
    next hend =>
      cases h
      rw [he, hend]
      exact Reads.ends hblank (by simp)
    next c rest hrest =>
      rw [hrest] at he h
      split_ifs at h with hclose hbar hopen hset hquantifier
      · cases h
        rw [he]
        exact Reads.ends hblank (by simp [hclose])
      · rw [he, hbar]
        exact Reads.bar hblank (ih h)
      · obtain ⟨⟨o, after⟩, hopening, hbody⟩ := Option.bind_eq_some_iff.mp h
        rw [hopen] at he
        rcases opening_proper hopening with
          ⟨kind, opener, rfl, rfl, hproper⟩ | ⟨fs, inner, rfl, rfl, hproper⟩
        -- a group: the reader runs once inside it and once behind it
        · obtain ⟨names', -, hbody⟩ := Option.bind_eq_some_iff.mp hbody
          obtain ⟨inside, hinside, hbody⟩ := Option.bind_eq_some_iff.mp hbody
          have hinner := ih hinside
          split at hbody
          next outside hrest' =>
            rw [hrest'] at hinner
            rw [consumed_cons_append, hopen] at hbody
            rw [he]
            exact Reads.group hblank (hproper _) hinner (ih hbody)
          next => simp at hbody
        · have hsource : consumed (c :: (inner ++ ')' :: after)) after = '(' :: (inner ++ [')']) := by
            rw [hopen]
            simpa using consumed_append ('(' :: (inner ++ [')'])) after
          have htext : '(' :: (inner ++ ')' :: after) = '(' :: (inner ++ [')']) ++ after := by simp
          dsimp only at hbody
          rw [hsource] at hbody
          rw [he, htext]
          exact Reads.flags hblank hproper (ih hbody)
      · obtain ⟨⟨a, after⟩, hread, hbody⟩ := Option.bind_eq_some_iff.mp h
        obtain ⟨used, rfl, hproper⟩ := bracketed_proper hread
        dsimp only at hbody
        rw [consumed_cons_append] at hbody
        rw [hset] at he hbody
        rw [he]
        exact Reads.atom hblank hproper (ih hbody)
      -- blanks in front of a quantifier are part of it, so its text starts at `cs`
      · obtain ⟨⟨q, after⟩, hread, hbody⟩ := Option.bind_eq_some_iff.mp h
        obtain ⟨now', hrepeat, hbody⟩ := Option.bind_eq_some_iff.mp hbody
        obtain ⟨mark, rfl, hproper⟩ := quantifier_proper hblank hquantifier hread
        obtain ⟨n, before, rfl, hn, rfl⟩ := repeatLast_eq_some hrepeat
        have htext : cs = blank ++ c :: mark ++ after := by simpa using he
        dsimp only at hbody
        rw [htext, consumed_append] at hbody
        rw [htext]
        exact Reads.repeated (hproper n hn) (ih hbody)
      · obtain ⟨⟨a, after⟩, hread, hbody⟩ := Option.bind_eq_some_iff.mp h
        have hmarks : c ∉ quantifierMarks := by simpa [quantifierMarks] using hquantifier
        obtain ⟨used, rfl, hproper⟩ := simpleAtom_proper hread hopen hclose hbar hset hmarks
        dsimp only at hbody
        rw [consumed_cons_append] at hbody
        rw [he]
        exact Reads.atom hblank hproper (ih hbody)

theorem parse_reads {pattern : List Char} {branches : Branches} (h : parse pattern = some branches) :
    Reads false [] [] pattern branches [] := by
  obtain ⟨parsed, hbody, h⟩ := Option.bind_eq_some_iff.mp h
  split_ifs at h with hend
  cases h
  have hreads := body_reads hbody
  have hrest : parsed.rest = [] := by
    simp only [Bool.and_eq_true, List.isEmpty_iff] at hend
    exact hend.1
  rwa [hrest] at hreads

/-! ### The text of the nodes -/

namespace Node

@[simp] theorem sourceAll_append (xs ys : List Node) :
    sourceAll (xs ++ ys) = sourceAll xs ++ sourceAll ys := by
  induction xs with
  | nil => rfl
  | cons x xs ih => simp [sourceAll, ih]

theorem sourceBranches_concat (bs : Branches) (b : List Node) :
    sourceBranches (bs ++ [b]) = (bs.flatMap fun b => sourceAll b ++ ['|']) ++ sourceAll b := by
  induction bs with
  | nil => simp [sourceBranches]
  | cons b' bs ih =>
    have hne : bs ++ [b] ≠ [] := by simp
    rw [List.cons_append, sourceBranches, ih]
    · simp
    · exact fun he => hne he

end Node

theorem sourceAll_withBlank (blank : List Char) (now : List Node) :
    Node.sourceAll (withBlank blank now).reverse = Node.sourceAll now.reverse ++ blank := by
  unfold withBlank
  split_ifs with hblank
  · simp [List.isEmpty_iff.mp hblank]
  · simp [Node.sourceAll, Node.source]

def readSoFar (done : Branches) (now : List Node) : List Char :=
  (done.reverse.flatMap fun b => Node.sourceAll b ++ ['|']) ++ Node.sourceAll now.reverse

theorem readSoFar_cons (done : Branches) (n : Node) (now : List Node) :
    readSoFar done (n :: now) = readSoFar done now ++ n.source := by
  simp [readSoFar, Node.sourceAll]

theorem readSoFar_withBlank (done : Branches) (blank : List Char) (now : List Node) :
    readSoFar done (withBlank blank now) = readSoFar done now ++ blank := by
  simp [readSoFar, sourceAll_withBlank]

variable {verbose : Bool} {done branches : Branches} {now : List Node} {cs rest : List Char}

/-- No character is lost, added or moved. -/
theorem Reads.source (h : Reads verbose done now cs branches rest) :
    Node.sourceBranches branches ++ rest = readSoFar done now ++ cs := by
  induction h with
  | ends _ _ =>
    rw [List.reverse_cons, Node.sourceBranches_concat, sourceAll_withBlank, readSoFar]
    simp
  | bar _ _ ih =>
    rw [ih]
    simp [readSoFar, sourceAll_withBlank, Node.sourceAll]
  | atom _ _ _ ih => simp [ih, readSoFar_cons, readSoFar_withBlank, Node.source]
  | flags _ _ _ ih => simp [ih, readSoFar_cons, readSoFar_withBlank, Node.source]
  | repeated _ _ ih => simp [ih, readSoFar_cons, Node.source]
  | group _ _ _ _ hinside ih =>
    rw [readSoFar] at hinside
    rw [ih, readSoFar_cons, readSoFar_withBlank, Node.source]
    simpa [Node.sourceAll] using hinside

theorem sourceBranches_of_parse {pattern : List Char} (h : parse pattern = some branches) :
    Node.sourceBranches branches = pattern := by
  simpa [readSoFar, Node.sourceAll] using (parse_reads h).source

end Regex
end PromptWeave
