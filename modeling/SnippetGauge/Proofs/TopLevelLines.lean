import SnippetGauge.Proofs.JoinedTexts

set_option autoImplicit false

namespace SnippetGauge

open Text

/-- The first line that is more than blanks and a comment begins in the first column. -/
def StartsAtTop (text : Text) : Prop :=
  ∀ line, (lines (stripHashComments text)).find? (!isBlankText ·) = some line →
    leadingBlanks line = 0

namespace Lint.Python

theorem lintLines_of_top {state : Indentation} (nested : state.Nested) {source : List Text}
    (top : ∀ line, source.find? (!isBlankText ·) = some line → leadingBlanks line = 0)
    (number : Nat) :
    rules.lintLines state number source = rules.lintLines .start number source := by
  induction source generalizing number with
  | nil => rfl
  | cons line later ih =>
    cases blank : isBlankText line with
    | true =>
      have skipped := (skipsLine_eq line).trans blank
      simp only [List.find?_cons, blank, Bool.not_true] at top
      simp only [RuleSet.lintLines, skipped, if_true, ih top]
    | false =>
      have kept := (skipsLine_eq line).trans blank
      have width : leadingBlanks (trimEnd line) = 0 := by
        rw [leadingBlanks_trimEnd blank]
        exact top line (by simp [blank])
      -- A line in the first column closes every block, so both go on alike from here.
      have closed : state.closeDeeper (leadingBlanks (trimEnd line)) =
          Indentation.start.closeDeeper (leadingBlanks (trimEnd line)) := by
        rw [width, nested.closeDeeper_zero, Indentation.nested_start.closeDeeper_zero]
      have same : rules.trackLine state number line = rules.trackLine .start number line := by
        have tracks : rules.tracksIndentation = true := rfl
        simp only [RuleSet.trackLine, tracks, if_true, Indentation.feed_congr closed]
      simp only [RuleSet.lintLines, kept, same, Bool.false_eq_true, if_false]

end Lint.Python

theorem lint_python (source : Text) :
    lint source .python =
      Lint.Python.rules.lintLines .start 1 (lines (stripHashComments source)) := by
  have none : Lint.Python.rules.fileFindings (stripHashComments source) = [] := rfl
  simp only [lint, Lint.rules?, stripComments, none, List.append_nil]
  rfl

theorem lint_append_of_startsAtTop {below : Text} (top : StartsAtTop below) (above : Text) :
    lint (above ++ '\n' :: below) .python =
      lint above .python ++ (lint below .python).map (·.movedDown (lineCount above)) := by
  have settled : LeavesNoBlock .python above := fun blocks => by simp [HasBlocks] at blocks
  have height : (lines (stripHashComments above)).length = lineCount above :=
    length_lines_stripComments above .python
  have joined : lines (stripHashComments (above ++ '\n' :: below)) =
      lines (stripHashComments above) ++ lines (stripHashComments below) :=
    lines_stripComments_append settled below
  have left := Lint.Python.rules.nested_indentationAfter Indentation.nested_start 1
    (lines (stripHashComments above))
  rw [lint_python, lint_python, lint_python, joined, Lint.RuleSet.lintLines_append, height,
    Lint.Python.lintLines_of_top left top, Lint.RuleSet.lintLines_add _ _ _ (Nat.le_refl 1)]

def openBlocks : Text := "def f(n):\n      if n:\n    while n:".toList

def calledTwice : Text := "  # again\n\nif n:\n      f(f(n))".toList

theorem lint_openBlocks_calledTwice :
    StartsAtTop calledTwice ∧
      (lint (openBlocks ++ '\n' :: calledTwice) .python).map (·.line) = [2, 7] := by
  have top : StartsAtTop calledTwice := by
    intro line found
    have first : (lines (stripHashComments calledTwice)).find? (!isBlankText ·) =
        some "if n:".toList := by decide
    rw [first, Option.some.injEq] at found
    subst found
    decide
  refine ⟨top, ?_⟩
  rw [lint_append_of_startsAtTop top]
  decide

-- Below a line that is set in, the blocks above are still open.
example : (lint (openBlocks ++ "\n      f(n)".toList) .python).map (·.line) = [2, 4] ∧
    lint "      f(n)".toList .python = [] := by decide

end SnippetGauge
