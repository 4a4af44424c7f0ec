import SnippetGauge.Proofs.BracedLoops

set_option autoImplicit false

namespace SnippetGauge

open Text

-- The lines below are scanned twice: alone, and joined to lines above that were `above` deep.
structure DeepestBelow (above alone joined : Nat) : Prop where
  alone_le : alone ≤ joined
  above_le : above ≤ joined
  le_sum : joined ≤ above + alone

theorem DeepestBelow.max {above alone joined own whole : Nat}
    (deepest : DeepestBelow above alone joined) (within : own ≤ whole)
    (added : whole ≤ above + own) : DeepestBelow above (max alone own) (max joined whole) := by
  obtain ⟨aloneLe, aboveLe, sum⟩ := deepest
  constructor <;> omega

namespace BraceScan

structure Below (above : Nat) (alone joined : BraceScan) : Prop where
  within : alone.depth ≤ joined.depth
  added : joined.depth ≤ above + alone.depth
  deepest : DeepestBelow above alone.deepest joined.deepest

variable {above : Nat} {alone joined : BraceScan}

theorem Below.line (below : Below above alone joined) (row : Text) :
    Below above (alone.line row) (joined.line row) := by
  let own := if hasLoopWord row then alone.depth + 1 else alone.depth
  let whole := if hasLoopWord row then joined.depth + 1 else joined.depth
  have opened : own ≤ whole ∧ whole ≤ above + own := by
    have within := below.within
    have added := below.added
    cases loop : hasLoopWord row <;> simp only [own, whole, loop] <;> grind
  obtain ⟨within, added⟩ := opened
  have deepest := below.deepest.max within added
  cases closes : row.contains '\x7d' with
  | false =>
    simp only [BraceScan.line, closes]
    exact ⟨within, added, deepest⟩
  | true =>
    -- At depth zero a brace closes nothing, so the scan from above may lose what it was ahead.
    have left : whole - 1 ≤ above + (own - 1) := by omega
    simp only [BraceScan.line, closes, if_true]
    exact ⟨Nat.sub_le_sub_right within 1, left, deepest⟩

theorem depth_le_deepest_foldl (source : List Text) :
    (source.foldl line ⟨0, 0⟩).depth ≤ (source.foldl line ⟨0, 0⟩).deepest := by
  apply List.foldlRecOn (motive := fun scan => scan.depth ≤ scan.deepest) source line
  next => exact Nat.le_refl 0
  next => exact fun scan _ row _ => scan.depth_le_deepest_line row

theorem below_foldl (above below : List Text) :
    Below (braceDepth above) (below.foldl line ⟨0, 0⟩)
      (below.foldl line (above.foldl line ⟨0, 0⟩)) := by
  apply List.foldl_rel (r := Below (braceDepth above))
  next =>
    have entered := depth_le_deepest_foldl above
    exact ⟨Nat.zero_le _, entered, Nat.zero_le _, Nat.le_refl _, Nat.le_refl _⟩
  next => exact fun row _ alone joined below => below.line row

end BraceScan

namespace IndentScan

structure Below (above : Nat) (alone joined : IndentScan) : Prop where
  loops : ∃ outer, joined.loops = alone.loops ++ outer ∧ outer.length ≤ above
  deepest : DeepestBelow above alone.deepest joined.deepest

variable {above : Nat} {alone joined : IndentScan}

-- A loop of the lines above is over only when all the loops below it are.
theorem exists_dropWhile_append (level : Nat) (inner outer : List Nat) :
    ∃ left, (inner ++ outer).dropWhile (level ≤ ·) = inner.dropWhile (level ≤ ·) ++ left ∧
      left.length ≤ outer.length := by
  rw [List.dropWhile_append]
  split
  next ended =>
    refine ⟨outer.dropWhile (level ≤ ·), ?_, (List.dropWhile_sublist _).length_le⟩
    rw [List.isEmpty_iff.mp ended, List.nil_append]
  next => exact ⟨outer, rfl, Nat.le_refl _⟩

theorem Below.line (below : Below above alone joined) (row : Text) :
    Below above (alone.line row) (joined.line row) := by
  obtain ⟨⟨outer, split, few⟩, deepest⟩ := below
  cases blank : isBlankText row with
  | true =>
    simp only [IndentScan.line, blank, if_true]
    exact ⟨⟨outer, split, few⟩, deepest⟩
  | false =>
    obtain ⟨left, closed, fewer⟩ :=
      exists_dropWhile_append (indentLevel row) alone.loops outer
    have bound : left.length ≤ above := Nat.le_trans fewer few
    rw [← split] at closed
    cases loop : hasLoopWord row with
    | false =>
      simp only [IndentScan.line, blank, loop, Bool.false_eq_true, if_false]
      exact ⟨⟨left, closed, bound⟩, deepest⟩
    | true =>
      simp only [IndentScan.line, blank, loop, Bool.false_eq_true, if_false, if_true, closed]
      refine ⟨⟨left, rfl, bound⟩, deepest.max ?_ ?_⟩
      all_goals
        rw [List.length_append]
        omega

theorem length_loops_le_deepest_line (scan : IndentScan) (row : Text)
    (within : scan.loops.length ≤ scan.deepest) :
    (scan.line row).loops.length ≤ (scan.line row).deepest := by
  have fewer := (List.dropWhile_sublist (l := scan.loops) (indentLevel row ≤ ·)).length_le
  cases blank : isBlankText row with
  | true => simpa [line, blank] using within
  | false =>
    cases loop : hasLoopWord row with
    | false => simpa [line, blank, loop] using Nat.le_trans fewer within
    | true =>
      simp only [line, blank, loop, Bool.false_eq_true, if_false, if_true, List.length_cons]
      exact Nat.le_max_right _ _

theorem length_loops_le_deepest_foldl (source : List Text) :
    (source.foldl line ⟨[], 0⟩).loops.length ≤ (source.foldl line ⟨[], 0⟩).deepest := by
  apply List.foldlRecOn (motive := fun scan => scan.loops.length ≤ scan.deepest) source line
  next => exact Nat.le_refl 0
  next => exact fun scan within row _ => scan.length_loops_le_deepest_line row within

theorem below_foldl (above below : List Text) :
    Below (indentDepth above) (below.foldl line ⟨[], 0⟩)
      (below.foldl line (above.foldl line ⟨[], 0⟩)) := by
  apply List.foldl_rel (r := Below (indentDepth above))
  next =>
    have entered := length_loops_le_deepest_foldl above
    exact ⟨⟨_, rfl, entered⟩, Nat.zero_le _, Nat.le_refl _, Nat.le_refl _⟩
  next => exact fun row _ alone joined below => below.line row

end IndentScan

theorem deepestBelow_loopDepth (above below : Text) (language : Language) :
    DeepestBelow (loopDepth above language) (loopDepth below language)
      (loopDepth (above ++ '\n' :: below) language) := by
  cases braces : language.usesBraces with
  | true =>
    simp only [loopDepth, braces, if_true, lines_append, braceDepth, List.foldl_append]
    exact (BraceScan.below_foldl (lines above) (lines below)).deepest
  | false =>
    simp only [loopDepth, braces, Bool.false_eq_true, if_false, lines_append, indentDepth,
      List.foldl_append]
    exact (IndentScan.below_foldl (lines above) (lines below)).deepest

/-- Code put above or below never hides a loop, and adds no more loops around it than it has in
one another. -/
theorem loopDepth_append (above below : Text) (language : Language) :
    max (loopDepth above language) (loopDepth below language) ≤
        loopDepth (above ++ '\n' :: below) language ∧
      loopDepth (above ++ '\n' :: below) language ≤
        loopDepth above language + loopDepth below language := by
  obtain ⟨alone, first, sum⟩ := deepestBelow_loopDepth above below language
  exact ⟨Nat.max_le_of_le_of_le first alone, sum⟩

-- Both bounds are reached: the loop above is over, or it is still open.
example : loopDepth "for n in a:\n  while n:".toList .python = 1 ∧
    loopDepth "for n in a:\n    while n:".toList .python = 2 := by decide

end SnippetGauge
