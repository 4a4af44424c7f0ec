import SnippetGauge.Proofs.IndentationLevels
import SnippetGauge.Proofs.MovedDown

set_option autoImplicit false

namespace SnippetGauge

open Text

namespace Text

variable {text : Text}

theorem exists_trimEnd (text : Text) :
    ∃ white, isBlankText white = true ∧ text = trimEnd text ++ white := by
  refine ⟨(text.reverse.takeWhile isBlank).reverse, ?_, ?_⟩
  next =>
    simp only [isBlankText, List.all_reverse, List.all_eq_true]
    exact fun c inside => List.mem_takeWhile_imp inside
  next =>
    rw [trimEnd, ← List.reverse_append, List.takeWhile_append_dropWhile, List.reverse_reverse]

theorem trimEnd_eq_nil_iff : trimEnd text = [] ↔ isBlankText text = true := by
  simp [trimEnd, isBlankText]

theorem trim_eq_nil_iff : trim text = [] ↔ isBlankText text = true := by
  have started : isBlankText (trimStart text) = isBlankText text := by
    induction text with
    | nil => rfl
    | cons c rest ih => cases blank : isBlank c <;> simp_all [trimStart, isBlankText]
  rw [trim, trimEnd_eq_nil_iff, started]

theorem leadingBlanks_trimEnd (filled : isBlankText text = false) :
    leadingBlanks (trimEnd text) = leadingBlanks text := by
  obtain ⟨white, blank, whole⟩ := exists_trimEnd text
  have stops : ¬ (List.takeWhile isBlank (trimEnd text)).length = (trimEnd text).length := by
    intro full
    have all := List.takeWhile_eq_self_iff.mp
      ((List.takeWhile_prefix isBlank).eq_of_length full)
    have white : isBlankText text = true := by
      rw [whole, isBlankText, List.all_append, Bool.and_eq_true, List.all_eq_true]
      exact ⟨all, blank⟩
    simp [white] at filled
  conv_rhs => rw [whole, leadingBlanks, List.takeWhile_append, if_neg stops]
  rfl

end Text

namespace Indentation

variable {state other : Indentation} {line : Text}

theorem feed_congr (same : state.closeDeeper (leadingBlanks line) =
      other.closeDeeper (leadingBlanks line)) (number : Int) :
    state.feed number line = other.feed number line := by
  simp only [feed, same]

theorem Nested.closeDeeper_zero (nested : state.Nested) : state.closeDeeper 0 = start := by
  have none : (state.closeDeeper 0).levels = [] := by
    rw [nested.levels_closeDeeper, List.filter_eq_nil_iff]
    intro level inside
    have indented := nested.indented level inside
    simp; omega
  exact congrArg Indentation.mk none

end Indentation

namespace Lint.RuleSet

variable (rules : RuleSet) {state : Indentation}

def indentationAfter (rules : RuleSet) : Indentation → Nat → List Text → Indentation
  | state, _, [] => state
  | state, number, line :: later =>
    if rules.skipsLine (trim line) then rules.indentationAfter state (number + 1) later
    else rules.indentationAfter (rules.trackLine state number line).2 (number + 1) later

theorem lintLines_append (state : Indentation) (number : Nat) (above below : List Text) :
    rules.lintLines state number (above ++ below) =
      rules.lintLines state number above ++
        rules.lintLines (rules.indentationAfter state number above) (number + above.length)
          below := by
  induction above generalizing state number with
  | nil => rfl
  | cons line later ih =>
    have after : number + (later.length + 1) = number + 1 + later.length := by omega
    cases skipped : rules.skipsLine (trim line) <;>
      simp [lintLines, indentationAfter, skipped, ih, after]

theorem indentationAfter_of_untracked (untracked : rules.tracksIndentation = false)
    (state : Indentation) (number : Nat) (source : List Text) :
    rules.indentationAfter state number source = state := by
  induction source generalizing number with
  | nil => rfl
  | cons line later ih => simp [indentationAfter, trackLine, untracked, ih]

theorem trackLine_fst (state : Indentation) (number : Nat) (line : Text) :
    (rules.trackLine state number line).1 = [] ∨
      rules.tracksIndentation = true ∧ ∃ expected width,
        (rules.trackLine state number line).1 =
          [(Indentation.advice expected width).atLine number] := by
  cases tracked : rules.tracksIndentation with
  | false => exact .inl (by simp [trackLine, tracked])
  | true =>
    let width := leadingBlanks (trimEnd line)
    let kept := state.closeDeeper width
    simp only [trackLine, tracked, if_true, Indentation.feed]
    cases misplaced : kept.misplaced width with
    | false => exact .inl (by simp)
    | true =>
      by_cases below : (number : Int) < 1
      next => exact .inl (by simp [below])
      next => exact .inr ⟨trivial, kept.expected, width, by simp [below, kept, width]⟩

theorem nested_trackLine (nested : state.Nested) (number : Nat) (line : Text) :
    (rules.trackLine state number line).2.Nested := by
  have fed := nested.feed number (trimEnd line)
  unfold trackLine
  cases rules.tracksIndentation with
  | false => exact nested
  | true =>
    simp only [if_true]
    split <;> simp_all

theorem nested_indentationAfter (nested : state.Nested) (number : Nat) (source : List Text) :
    (rules.indentationAfter state number source).Nested := by
  induction source generalizing state number with
  | nil => exact nested
  | cons line later ih =>
    unfold indentationAfter
    split
    next => exact ih nested _
    next => exact ih (rules.nested_trackLine nested number line) _

end Lint.RuleSet

namespace Lint.Python

theorem skipsLine_eq (line : Text) : rules.skipsLine (trim line) = isBlankText line := by
  have same : (trim line).isEmpty = isBlankText line := by
    rw [Bool.eq_iff_iff, List.isEmpty_iff, trim_eq_nil_iff]
  simpa [RuleSet.skipsLine, rules, startsWithAny] using same

end Lint.Python

end SnippetGauge
