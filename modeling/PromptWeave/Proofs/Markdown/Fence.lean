import PromptWeave.Proofs.Markdown.Sections

/-! Fenced code in a document.
A fence opens a block that takes in all that follows, whatever it looks like, up to the first line
that begins with three of the characters of the fence. Longer fences do not need more of them to be
closed, and what stands behind these three makes no difference. -/
namespace PromptWeave
namespace Markdown

/-! ### The block behind a fence -/

theorem blocksFrom_inside {mark : Char} {body : List (List Char)}
    (h : ∀ l ∈ body, closesFence mark l = false) (begun rest : List (List Char)) :
    blocksFrom (.code mark begun) (body ++ rest) =
      blocksFrom (.code mark (begun ++ body)) rest := by
  induction body generalizing begun with
  | nil => simp
  | cons line body ih =>
    obtain ⟨hline, hbody⟩ := List.forall_mem_cons.mp h
    have hstep : (Pending.code mark begun).step line = ([], .code mark (begun ++ [line])) := by
      simp [Pending.step, hline]
    rw [List.cons_append, blocksFrom_cons, hstep, List.nil_append, ih hbody, List.append_assoc,
      List.singleton_append]

theorem blocksFrom_closing {mark : Char} {line : List Char} (h : closesFence mark line = true)
    (begun rest : List (List Char)) : blocksFrom (.code mark begun) (line :: rest) =
      .code (begun ++ [line]) :: blocksFrom .nothing rest := by
  have hstep : (Pending.code mark begun).step line = ([.code (begun ++ [line])], .nothing) := by
    simp [Pending.step, h]
  rw [blocksFrom_cons, hstep, List.singleton_append]

theorem blocksFrom_concat_ne_nil {mark : Char} {line : List Char}
    (h : fenceMark? (Text.trim line) = some mark) (p : Pending) (lines : List (List Char)) :
    blocksFrom p (lines ++ [line]) ≠ [] := by
  induction lines generalizing p with
  | cons l lines ih =>
    rw [List.cons_append, blocksFrom_cons]
    exact List.append_ne_nil_of_right_ne_nil _ (ih _)
  | nil =>
    have hclass : classify line = .fence mark := by simp [classify, h]
    rw [List.nil_append, blocksFrom_cons, blocksFrom_nil]
    cases p with
    | code m begun =>
      rw [Pending.step]
      split <;> simp [Pending.finish]
    | _ => simp [Pending.step, Pending.next, hclass, Pending.finish]

/-- If a line inside closes the fence the one at the end makes a block of its own. -/
theorem blocksFrom_closed {mark : Char} {last : List Char}
    (hlast : fenceMark? (Text.trim last) = some mark) {body : List (List Char)}
    (h : ∃ l ∈ body, closesFence mark l = true) (begun : List (List Char)) :
    ∃ lines bs, blocksFrom (.code mark begun) (body ++ [last]) = .code lines :: bs ∧ bs ≠ [] := by
  induction body generalizing begun with
  | nil => simp at h
  | cons line body ih =>
    rw [List.cons_append]
    by_cases hline : closesFence mark line = true
    · rw [blocksFrom_closing hline]
      exact ⟨_, _, rfl, blocksFrom_concat_ne_nil hlast .nothing body⟩
    · have hbody : ∃ l ∈ body, closesFence mark l = true := by simpa [hline] using h
      have hstep : (Pending.code mark begun).step line = ([], .code mark (begun ++ [line])) := by
        simp [Pending.step, hline]
      rw [blocksFrom_cons, hstep, List.nil_append]
      exact ih hbody _

/-! ### Lines of fences -/

def IsMark (c : Char) : Prop := c = '\x60' ∨ c = '~'

theorem fenceMark?_trim {c : Char} (hc : IsMark c) (tail : List Char) :
    fenceMark? (Text.trim (c :: c :: c :: tail)) = some c := by
  have hshown : Text.isBlank c = false := by rcases hc with rfl | rfl <;> decide
  have hkeep : ∀ cs, Text.trimEnd (c :: cs) = c :: Text.trimEnd cs :=
    fun cs => Text.dropLastWhile_cons_of_neg cs hshown
  rw [Text.trim, Text.trimStart, List.dropWhile_cons, hshown]
  simp only [Bool.false_eq_true, if_false, hkeep]
  rcases hc with rfl | rfl <;> rfl

theorem closesFence_dropReturn {c : Char} (hc : c ≠ '\r') (l : List Char) :
    closesFence c (Text.dropReturn l) = closesFence c l := by
  rw [Text.dropReturn]
  split
  next hreturn =>
    obtain ⟨front, rfl⟩ := List.getLast?_eq_some_iff.mp hreturn
    have hend : ∀ cs, Text.startsWith [c, c, c] (cs ++ ['\r']) = Text.startsWith [c, c, c] cs := by
      intro cs
      rw [Bool.eq_iff_iff, Text.startsWith, Text.startsWith, List.isPrefixOf_iff_prefix,
        List.isPrefixOf_iff_prefix, List.prefix_concat_iff]
      refine or_iff_right fun he => hc ?_
      have hlast := congrArg List.getLast? he
      simpa using hlast
    have hdrop : Text.trimStart (front ++ ['\r']) =
        if (Text.trimStart front).isEmpty then [] else Text.trimStart front ++ ['\r'] := by
      rw [Text.trimStart, List.dropWhile_append]
      rfl
    rw [List.dropLast_concat, closesFence, closesFence, hdrop]
    split
    next hnil => rw [List.isEmpty_iff.mp hnil]
    next => exact (hend _).symm
  next => rfl

theorem closesFence_iff {c : Char} {line : List Char} :
    closesFence c line = true ↔ [c, c, c] <+: Text.trimStart line := by
  rw [closesFence, Text.startsWith, List.isPrefixOf_iff_prefix]

/-! ### The parsed document -/

variable {kind : Kind}

/-- A document that begins with code begins with a leaf of it. -/
theorem parse_code {document : List Char} {lines : List (List Char)} {bs : List Block}
    (h : blocks document = .code lines :: bs) : parse (.plain kind) (String.ofList document) =
      { Section.empty kind with
        items := .leaf (Leaf.ofText kind (String.ofList (Text.unlines lines))) ::
          toItems (.plain kind) (Outline.ofBlocks bs) } := by
  rw [parse, String.toList_ofList, outline, h, Outline.ofBlocks_cons, Outline.place, toItems,
    toItem_text]
  rfl

theorem toItems_eq_nil {bs : List Block} (h : toItems (.plain kind) (Outline.ofBlocks bs) = []) :
    bs = [] := by
  cases bs with
  | nil => rfl
  | cons b bs => cases b <;> cases h

structure Fences (c : Char) (opening closing : List Char) : Prop where
  mark : IsMark c
  opens : fenceMark? (Text.trim (Text.dropReturn opening)) = some c
  reopens : fenceMark? (Text.trim closing) = some c
  closes : closesFence c closing = true
  oneLine : '\n' ∉ opening ∧ '\n' ∉ closing
  noReturn : closing.getLast? ≠ some '\r'

variable {c : Char} {opening closing : List Char} {body : List (List Char)} {final : List Char}

theorem Fences.blocks_eq (h : Fences c opening closing) (hbody : ∀ l ∈ body, '\n' ∉ l)
    (hfinal : final = [] ∨ final = ['\n']) :
    blocks (Text.unlines (opening :: body ++ [closing]) ++ final) =
      blocksFrom (.code c [Text.dropReturn opening]) (body.map Text.dropReturn ++ [closing]) := by
  have hlines : ∀ l ∈ opening :: body, '\n' ∉ l :=
    List.forall_mem_cons.mpr ⟨h.oneLine.1, hbody⟩
  have hclosing : closing ≠ [] := by
    rintro rfl
    cases h.reopens
  have hlast : Text.lines (closing ++ final) = [closing] := by
    rcases hfinal with rfl | rfl
    · rw [List.append_nil, Text.lines_of_notMem h.oneLine.2 hclosing]
    · rw [Text.lines_append [] h.oneLine.2 h.noReturn, Text.lines_nil]
  have hread : Text.lines (Text.unlines (opening :: body ++ [closing]) ++ final) =
      Text.dropReturn opening :: (body.map Text.dropReturn ++ [closing]) := by
    have hne : opening :: body ≠ [] := List.cons_ne_nil opening body
    have happend := Text.lines_unlines_concat hlines (closing ++ final)
    rw [hlast, Text.unlines_concat hne, ← List.cons_append, ← List.append_assoc,
      ← Text.unlines_concat hne] at happend
    exact happend
  have hclass : classify (Text.dropReturn opening) = .fence c := by simp [classify, h.opens]
  rw [blocks, hread, blocksFrom_cons]
  simp [Pending.step, Pending.next, hclass, Pending.finish]

theorem Fences.parse_iff (h : Fences c opening closing) (kind : Kind)
    (hbody : ∀ l ∈ body, '\n' ∉ l) (hfinal : final = [] ∨ final = ['\n']) :
    parse (.plain kind) (String.ofList (Text.unlines (opening :: body ++ [closing]) ++ final)) =
        { Section.empty kind with items :=
          [.leaf (Leaf.ofText kind (String.ofList (Text.unlines (opening :: body ++ [closing]))))] } ↔
      (∀ l ∈ body, closesFence c l = false) ∧ ∀ l ∈ opening :: body, l.getLast? ≠ some '\r' := by
  have hreturn : c ≠ '\r' := by rcases h.mark with rfl | rfl <;> decide
  have hblocks := h.blocks_eq hbody hfinal
  by_cases hinside : ∀ l ∈ body, closesFence c l = false
  case pos =>
    have hdropped : ∀ l ∈ body.map Text.dropReturn, closesFence c l = false := by
      refine List.forall_mem_map.mpr fun l hl => ?_
      rw [closesFence_dropReturn hreturn, hinside l hl]
    rw [blocksFrom_inside hdropped, blocksFrom_closing h.closes] at hblocks
    have hlines : ∀ l ∈ opening :: body, '\n' ∉ l :=
      List.forall_mem_cons.mpr ⟨h.oneLine.1, hbody⟩
    have hrest : toItems (.plain kind) (Outline.ofBlocks (blocksFrom .nothing [])) = [] := rfl
    rw [parse_code hblocks, hrest, ← Text.unlines_dropReturn_iff hlines h.oneLine.2,
      and_iff_right hinside]
    simp [Leaf.ofText, String.ofList_inj]
  case neg =>
    have hdropped : ∃ l ∈ body.map Text.dropReturn, closesFence c l = true := by
      simpa [closesFence_dropReturn hreturn] using hinside
    obtain ⟨lines, bs, hclosed, hmore⟩ :=
      blocksFrom_closed h.reopens hdropped [Text.dropReturn opening]
    rw [parse_code (hblocks.trans hclosed)]
    refine iff_of_false (fun he => hmore ?_) fun he => hinside he.1
    have hitems := congrArg Section.items he
    simp only [List.cons.injEq] at hitems
    exact toItems_eq_nil hitems.2

theorem fences_replicate (hc : IsMark c) {n : Nat} (hn : 3 ≤ n) {info : List Char}
    (hinfo : '\n' ∉ info) : Fences c (List.replicate n c ++ info) (List.replicate n c) := by
  obtain ⟨m, rfl⟩ : ∃ m, n = m + 3 := ⟨n - 3, by omega⟩
  have hnewline : c ≠ '\n' := by rcases hc with rfl | rfl <;> decide
  have hreturn : c ≠ '\r' := by rcases hc with rfl | rfl <;> decide
  have hshown : Text.isBlank c = false := by rcases hc with rfl | rfl <;> decide
  have hdropped : Text.dropReturn (List.replicate (m + 3) c ++ info) =
      c :: c :: c :: Text.dropReturn (List.replicate m c ++ info) := by
    simp [List.replicate_succ, Text.dropReturn_cons _ hreturn]
  have hfence := fenceMark?_trim hc (List.replicate m c)
  refine ⟨hc, ?opens, hfence, ?closes, ⟨?first, ?last⟩, ?noReturn⟩
  case opens => rw [hdropped, fenceMark?_trim hc]
  case closes => simp [closesFence_iff, List.replicate_succ, Text.trimStart, hshown]
  case first => simp [hinfo, Ne.symm hnewline]
  case last => simp [Ne.symm hnewline]
  case noReturn => simp [List.getLast?_replicate, hreturn]

/-- A fence of three characters or more, lines of any kind and a fence as long as the first are read
as one leaf with all of them exactly if no line between begins with three of these characters, blanks
in front of them apart, and none ends in a carriage return. -/
theorem parse_fenced_iff (kind : Kind) (hc : IsMark c) {n : Nat} (hn : 3 ≤ n) {info : List Char}
    (hlines : ∀ l ∈ info :: body, '\n' ∉ l) (hfinal : final = [] ∨ final = ['\n']) :
    let block := (List.replicate n c ++ info) :: body ++ [List.replicate n c]
    parse (.plain kind) (String.ofList (Text.unlines block ++ final)) =
        { Section.empty kind with
          items := [.leaf (Leaf.ofText kind (String.ofList (Text.unlines block)))] } ↔
      (∀ l ∈ body, ¬ [c, c, c] <+: Text.trimStart l) ∧
        ∀ l ∈ info :: body, l.getLast? ≠ some '\r' := by
  obtain ⟨hinfo, hbody⟩ := List.forall_mem_cons.mp hlines
  have hreturn : (List.replicate n c ++ info).getLast? = some '\r' ↔ info.getLast? = some '\r' := by
    have hc' : c ≠ '\r' := by rcases hc with rfl | rfl <;> decide
    rw [List.getLast?_append, List.getLast?_replicate]
    cases info.getLast? <;> simp [hc']
  have hblock := (fences_replicate hc hn hinfo).parse_iff kind hbody hfinal
  simp only [List.forall_mem_cons, ne_eq, hreturn] at hblock ⊢
  simpa [← closesFence_iff] using hblock

def markdownLines : List (List Char) :=
  ["# Title".toList, "- item".toList, [], "\x60\x60".toList, "  ~~~".toList]

theorem parse_fenced_iff_markdownLines :
    IsMark '\x60' ∧ 3 ≤ 4 ∧ (∀ l ∈ "md".toList :: markdownLines, '\n' ∉ l) ∧
    parse (.plain .content)
        "\x60\x60\x60\x60md\n# Title\n- item\n\n\x60\x60\n  ~~~\n\x60\x60\x60\x60\n" =
      { Section.empty .content with items := [.leaf (Leaf.ofText .content
        "\x60\x60\x60\x60md\n# Title\n- item\n\n\x60\x60\n  ~~~\n\x60\x60\x60\x60")] } := by
  have hmark : IsMark '\x60' := Or.inl rfl
  have hlines : ∀ l ∈ "md".toList :: markdownLines, '\n' ∉ l := by decide
  have hblock := (parse_fenced_iff .content hmark (n := 4) (by decide) hlines (Or.inr rfl)).mpr
    ⟨by decide, by decide⟩
  exact ⟨hmark, by decide, hlines, hblock⟩

def nestedCode : List (List Char) :=
  ["\x60\x60\x60".toList, "# Title".toList, "\x60\x60\x60".toList]

/-- No line of the nested code is a fence as long as those around it, but the first one closes the
block, and the heading in it is read as one. -/
theorem nested_code_not_kept :
    let block := List.replicate 4 '\x60' :: nestedCode ++ [List.replicate 4 '\x60']
    let parsed := parse (.plain .instruction) (String.ofList (Text.unlines block))
    (∀ l ∈ nestedCode, (Text.trim l).all (· == '\x60') = true → (Text.trim l).length < 4) ∧
      parsed ≠ { Section.empty .instruction with
        items := [.leaf (Leaf.ofText .instruction (String.ofList (Text.unlines block)))] } ∧
      parsed.sections.map (·.head.title) = [some "Title"] := by
  decide +kernel

end Markdown
end PromptWeave
