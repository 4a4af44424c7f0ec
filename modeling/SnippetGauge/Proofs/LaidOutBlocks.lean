import SnippetGauge.Proofs.IndentedLoops
import SnippetGauge.Proofs.TopLevelLines

set_option autoImplicit false

namespace SnippetGauge

open Text

structure Statement.IsBare (statement : Statement) : Prop where
  uncommented : '#' ∉ statement.text
  ends : statement.text.getLast?.any (!isBlank ·) = true

namespace Block

def IsCode : Block → Prop
  | empty => True
  | statement first inner later =>
    first.IsBare ∧ (inner ≠ empty → first.text.getLast? = some ':') ∧ inner.IsCode ∧ later.IsCode

/-- The text has a line for each statement, in order, and anywhere lines that are blank but for a
comment. -/
def IsLaidOutIn (block : Block) (text : Text) : Prop :=
  (lines text).filter (fun line => !isBlankText (beforeHash line)) = block.rows 0

theorem exists_bare_of_mem_rows {block : Block} (code : block.IsCode) {depth : Nat} {line : Text}
    (found : line ∈ block.rows depth) :
    ∃ statement deep, statement.IsBare ∧ line = row deep statement := by
  induction block generalizing depth with
  | empty => simp [rows] at found
  | statement first inner later ihInner ihLater =>
    obtain ⟨bare, _, codeInner, codeLater⟩ := code
    simp only [rows, List.mem_cons, List.mem_append] at found
    rcases found with rfl | found | found
    · exact ⟨first, depth, bare, rfl⟩
    · exact ihInner codeInner found
    · exact ihLater codeLater found

theorem IsLaidOutIn.isShownBy {block : Block} {text : Text} (code : block.IsCode)
    (laid : block.IsLaidOutIn text) : block.IsShownBy (stripHashComments text) := by
  have whole : ∀ line ∈ block.rows 0, beforeHash line = line := by
    intro line found
    obtain ⟨statement, deep, bare, rfl⟩ := exists_bare_of_mem_rows code found
    have uncommented : '#' ∉ row deep statement := by simp [row, bare.uncommented]
    exact beforeHash_eq_self_iff.mpr uncommented
  have kept := congrArg (List.map beforeHash) laid
  rw [List.map_congr_left whole, List.map_id'] at kept
  rw [IsShownBy, stripHashComments, lines_mapLines_of_sublist beforeHash_sublist, List.filter_map]
  exact kept

end Block

namespace Text

theorem trimEnd_eq_self {text : Text} (ends : text.getLast?.any (!isBlank ·) = true) :
    trimEnd text = text := by
  rw [List.getLast?_eq_head?_reverse] at ends
  unfold trimEnd
  cases reversed : text.reverse with
  | nil => simp [reversed] at ends
  | cons c rest =>
    have filled : isBlank c = false := by simpa [reversed] using ends
    rw [List.dropWhile_cons_of_neg (by simp [filled]), ← reversed, List.reverse_reverse]

end Text

namespace Statement.IsBare

variable {statement : Statement} (bare : statement.IsBare) (depth : Nat)

include bare

theorem trimEnd_row : trimEnd (Block.row depth statement) = Block.row depth statement := by
  apply trimEnd_eq_self
  have ends := bare.ends
  cases last : statement.text.getLast? <;> simp_all [Block.row, List.getLast?_append]

theorem trim_row : trim (Block.row depth statement) = statement.text := by
  have gap : isBlankText (List.replicate (4 * depth) ' ') = true := by
    have blank : isBlank ' ' = true := by decide
    simp [isBlankText, blank]
  have starts := statement.starts
  have kept : trimStart statement.text = statement.text := by
    cases filled : statement.text with
    | nil => simp [filled] at starts
    | cons c rest =>
      have filled : isBlank c = false := by simpa [filled] using starts
      simp [trimStart, filled]
  rw [trim, Block.row, trimStart_append_of_blank gap, kept, trimEnd_eq_self bare.ends]

end Statement.IsBare

namespace Indentation

def inside : Nat → Indentation
  | 0 => start
  | depth + 1 => ⟨4 * (depth + 1) :: (inside depth).levels⟩

def settle (state : Indentation) (line : Text) : Indentation :=
  (state.closeDeeper (leadingBlanks line)).openBlock line

def Accepts : Indentation → List Text → Prop
  | _, [] => True
  | state, line :: later =>
    (state.closeDeeper (leadingBlanks line)).misplaced (leadingBlanks line) = false ∧
      (state.settle line).Accepts later

variable {state : Indentation} {depth : Nat}

theorem accepts_append (before after : List Text) :
    state.Accepts (before ++ after) ↔
      state.Accepts before ∧ (before.foldl settle state).Accepts after := by
  induction before generalizing state with
  | nil => simp [Accepts]
  | cons line before ih => simp [Accepts, ih, and_assoc]

theorem closeDeeper_closeDeeper (state : Indentation) {narrow wide : Nat} (le : narrow ≤ wide) :
    (state.closeDeeper wide).closeDeeper narrow = state.closeDeeper narrow := by
  have same : (state.levels.dropWhile (wide + 1 ≤ ·)).dropWhile (narrow + 1 ≤ ·) =
      state.levels.dropWhile (min (narrow + 1) (wide + 1) ≤ ·) :=
    IndentScan.dropWhile_dropWhile_le _ state.levels
  rw [Nat.min_eq_left (Nat.succ_le_succ le)] at same
  exact congrArg Indentation.mk same

@[simp] theorem inside_closeDeeper (depth : Nat) :
    (inside depth).closeDeeper (4 * depth) = inside depth := by
  cases depth <;> simp [inside, closeDeeper, start]

@[simp] theorem inside_succ_closeDeeper :
    (inside (depth + 1)).closeDeeper (4 * depth) = inside depth := by
  have closed : 4 * depth < 4 * (depth + 1) := by omega
  have outer := inside_closeDeeper depth
  simpa [inside, closeDeeper, closed] using outer

@[simp] theorem inside_misplaced : (inside depth).misplaced (4 * depth) = false := by
  cases depth <;> simp [inside, misplaced, start]

theorem inside_openBlock {statement : Statement} (bare : statement.IsBare) :
    (inside depth).openBlock (Block.row depth statement) =
      if statement.text.getLast? = some ':' then inside (depth + 1) else inside depth := by
  have width := leadingBlanks_indented (4 * depth) statement.starts
  rw [← Block.row] at width
  by_cases colon : statement.text.getLast? = some ':' <;>
    simp [openBlock, opensBlock, bare.trim_row, colon, width, inside, Nat.mul_succ]

theorem settle_row {statement : Statement} (bare : statement.IsBare)
    (around : state.closeDeeper (4 * depth) = inside depth) :
    state.settle (Block.row depth statement) =
      if statement.text.getLast? = some ':' then inside (depth + 1) else inside depth := by
  have width : leadingBlanks (Block.row depth statement) = 4 * depth :=
    leadingBlanks_indented (4 * depth) statement.starts
  rw [settle, width, around, inside_openBlock bare]

theorem closeDeeper_of_inside_succ
    (within : state.closeDeeper (4 * (depth + 1)) = inside (depth + 1)) :
    state.closeDeeper (4 * depth) = inside depth := by
  rw [← closeDeeper_closeDeeper state (by omega : 4 * depth ≤ 4 * (depth + 1)), within,
    inside_succ_closeDeeper]

theorem accepts_rows {block : Block} (code : block.IsCode)
    (around : state.closeDeeper (4 * depth) = inside depth) :
    state.Accepts (block.rows depth) ∧
      ((block.rows depth).foldl settle state).closeDeeper (4 * depth) = inside depth := by
  induction block generalizing depth state with
  | empty => exact ⟨trivial, around⟩
  | statement first inner later ihInner ihLater =>
    obtain ⟨bare, colon, codeInner, codeLater⟩ := code
    have width : leadingBlanks (Block.row depth first) = 4 * depth :=
      leadingBlanks_indented (4 * depth) first.starts
    have headed := settle_row bare around
    have within : (state.settle (Block.row depth first)).Accepts (inner.rows (depth + 1)) ∧
        ((inner.rows (depth + 1)).foldl settle
          (state.settle (Block.row depth first))).closeDeeper (4 * depth) = inside depth := by
      by_cases hollow : inner = .empty
      next =>
        -- The colon of a header without a block opens a level that the next line closes.
        subst hollow
        refine ⟨trivial, ?_⟩
        simp only [Block.rows, List.foldl_nil, headed]
        split <;> simp
      next =>
        have entered : (state.settle (Block.row depth first)).closeDeeper (4 * (depth + 1)) =
            inside (depth + 1) := by
          rw [headed, if_pos (colon hollow), inside_closeDeeper]
        obtain ⟨accepted, left⟩ := ihInner codeInner entered
        exact ⟨accepted, closeDeeper_of_inside_succ left⟩
    obtain ⟨accepted, left⟩ := ihLater codeLater within.2
    simp only [Block.rows, Accepts, accepts_append, List.foldl_cons, List.foldl_append, width,
      around, inside_misplaced]
    exact ⟨⟨trivial, within.1, accepted⟩, left⟩

end Indentation

namespace Lint.Python

def checkLines (number : Nat) (source : List Text) : List Finding :=
  (source.zipIdx number).flatMap fun (line, number) =>
    if isBlankText line then [] else rules.checkLine number (trim line)

theorem lintLines_of_accepts {state : Indentation} {source : List Text} (number : Nat)
    (accepted : state.Accepts ((source.filter (!isBlankText ·)).map trimEnd)) :
    rules.lintLines state number source = checkLines number source := by
  induction source generalizing state number with
  | nil => rfl
  | cons line later ih =>
    have tracks : rules.tracksIndentation = true := rfl
    cases blank : isBlankText line with
    | true =>
      have rest := ih (number + 1) (by simpa [blank] using accepted)
      simpa [RuleSet.lintLines, checkLines, skipsLine_eq, blank] using rest
    | false =>
      simp only [List.filter_cons, blank, Bool.not_false, if_true, List.map_cons] at accepted
      have rest := ih (number + 1) accepted.2
      have quiet : rules.trackLine state number line = ([], state.settle (trimEnd line)) := by
        simp [RuleSet.trackLine, tracks, Indentation.feed, accepted.1, Indentation.settle]
      simpa [RuleSet.lintLines, checkLines, skipsLine_eq, blank, quiet] using rest

theorem message_of_mem_checkLines {number : Nat} {source : List Text} {finding : Finding}
    (found : finding ∈ checkLines number source) :
    ∃ check ∈ rules.lineChecks, finding.message = check.advice.message := by
  obtain ⟨⟨line, number⟩, _, found⟩ := List.mem_flatMap.mp found
  cases blank : isBlankText line with
  | true => simp [blank] at found
  | false =>
    simp only [blank, Bool.false_eq_true, if_false, RuleSet.checkLine, List.mem_map,
      List.mem_filter] at found
    obtain ⟨check, ⟨listed, _⟩, rfl⟩ := found
    exact ⟨check, listed, rfl⟩

end Lint.Python

/-- Where every statement stands four columns inside of the one around it, only the checks of the
single lines find anything. -/
theorem lint_of_isLaidOutIn {block : Block} {text : Text} (code : block.IsCode)
    (laid : block.IsLaidOutIn text) :
    lint text .python = Lint.Python.checkLines 1 (lines (stripHashComments text)) ∧
      ∀ finding ∈ lint text .python, finding.message ≠ "Inconsistent indentation" := by
  have rows : ((lines (stripHashComments text)).filter (!isBlankText ·)).map trimEnd =
      block.rows 0 := by
    rw [laid.isShownBy code, List.map_congr_left, List.map_id']
    intro line found
    obtain ⟨statement, deep, bare, rfl⟩ := Block.exists_bare_of_mem_rows code found
    exact bare.trimEnd_row deep
  have around : Indentation.start.closeDeeper (4 * 0) = Indentation.inside 0 := rfl
  have accepted := (Indentation.accepts_rows code around).1
  have checked : lint text .python =
      Lint.Python.checkLines 1 (lines (stripHashComments text)) := by
    rw [lint_python, Lint.Python.lintLines_of_accepts 1 (rows ▸ accepted)]
  refine ⟨checked, ?_⟩
  intro finding found
  rw [checked] at found
  obtain ⟨check, listed, same⟩ := Lint.Python.message_of_mem_checkLines found
  have other : ∀ check ∈ Lint.Python.rules.lineChecks,
      check.advice.message ≠ "Inconsistent indentation" := by decide
  exact same ▸ other check listed

def retrying : Block :=
  .statement ⟨"def fetch(page):".toList, by decide, by decide⟩
    (.statement ⟨"for turn in turns:".toList, by decide, by decide⟩
      (.statement ⟨"try:".toList, by decide, by decide⟩
        (.statement ⟨"return page[turn]".toList, by decide, by decide⟩ .empty .empty)
      -- A header whose block is still to be written.
      (.statement ⟨"else:".toList, by decide, by decide⟩ .empty .empty)) .empty)
    (.statement ⟨"print fetch(1)".toList, by decide, by decide⟩ .empty .empty)

def retryingText : Text :=
  unlines (["def fetch(page):", " # by turns:", "    for turn in turns:", "",
    "        try:", "            return page[turn]", "  # if not:", "        else:", "   ",
    "print fetch(1)"].map String.toList)

theorem lint_retryingText :
    retrying.IsCode ∧ retrying.IsLaidOutIn retryingText ∧
      (∀ finding ∈ lint retryingText .python, finding.message ≠ "Inconsistent indentation") ∧
      (lint retryingText .python).map (·.line) = [10] := by
  have leaf (filled : Block.empty ≠ .empty) (text : Text) : text.getLast? = some ':' :=
    absurd rfl filled
  have code : retrying.IsCode :=
    ⟨⟨by decide, by decide⟩, fun _ => by decide,
      ⟨⟨by decide, by decide⟩, fun _ => by decide,
        ⟨⟨by decide, by decide⟩, fun _ => by decide,
          ⟨⟨by decide, by decide⟩, fun filled => leaf filled _, trivial, trivial⟩,
          ⟨⟨by decide, by decide⟩, fun _ => by decide, trivial, trivial⟩⟩,
        trivial⟩,
      ⟨⟨by decide, by decide⟩, fun filled => leaf filled _, trivial, trivial⟩⟩
  have laid : retrying.IsLaidOutIn retryingText := by unfold Block.IsLaidOutIn; decide
  obtain ⟨checked, level⟩ := lint_of_isLaidOutIn code laid
  refine ⟨code, laid, level, ?_⟩
  rw [checked]
  decide

-- One column too many is noticed.
example : (lint "if n:\n     f(n)".toList .python).map (·.message) =
    ["Inconsistent indentation"] := by decide

end SnippetGauge
