import SnippetGauge.Proofs.LeadingBreaks

set_option autoImplicit false

namespace SnippetGauge

open Text

def Finding.movedDown (count : Nat) (finding : Finding) : Finding :=
  { finding with line := finding.line + count }

def Token.movedDown (count : Nat) (token : Token) : Token :=
  { token with line := token.line + count }

section

variable (language : Language) (first count : Nat)

theorem tokensFrom_add (source : List Text) :
    tokensFrom language (first + count) source =
      (tokensFrom language first source).map (·.movedDown count) := by
  induction source generalizing first with
  | nil => rfl
  | cons line later ih =>
    have here : tokenizeLine language (first + count) line =
        (tokenizeLine language first line).map (·.movedDown count) := by
      unfold tokenizeLine
      rw [List.map_map]
      rfl
    rw [tokensFrom_cons, tokensFrom_cons, List.map_append, here, ← ih, Nat.add_right_comm]

theorem tokensFrom_blank (source : List Text) :
    tokensFrom language first (List.replicate count [] ++ source) =
      tokensFrom language (first + count) source := by
  induction count generalizing first with
  | zero => rfl
  | succ count ih =>
    rw [List.replicate_succ, List.cons_append, tokensFrom_cons, ih, Nat.add_right_comm]
    rfl

end

namespace Lint

namespace RuleSet

variable (rules : RuleSet) (state : Indentation) {number : Nat} (count : Nat)

theorem checkLine_add (line : Text) :
    rules.checkLine (number + count) line =
      (rules.checkLine number line).map (·.movedDown count) := by
  unfold checkLine
  rw [List.map_map]
  rfl

theorem trackLine_add (counted : 1 ≤ number) (line : Text) :
    rules.trackLine state (number + count) line =
      ((rules.trackLine state number line).1.map (·.movedDown count),
        (rules.trackLine state number line).2) := by
  -- A line numbered below one is refused its finding, and further down it would not be.
  have valid : ¬ ((number : Int) < 1) := by omega
  have validLater : ¬ (((number + count : Nat) : Int) < 1) := by omega
  unfold trackLine
  cases rules.tracksIndentation with
  | false => rfl
  | true =>
    simp only [if_true, Indentation.feed, valid, validLater, if_false]
    cases (state.closeDeeper (leadingBlanks (trimEnd line))).misplaced
        (leadingBlanks (trimEnd line)) with
    | false => rfl
    | true => rfl

theorem lintLines_add (counted : 1 ≤ number) (source : List Text) :
    rules.lintLines state (number + count) source =
      (rules.lintLines state number source).map (·.movedDown count) := by
  induction source generalizing state number with
  | nil => rfl
  | cons line later ih =>
    have next (state : Indentation) := ih state (Nat.le_add_right_of_le counted : 1 ≤ number + 1)
    rw [lintLines, lintLines]
    cases rules.skipsLine (trim line) with
    | true =>
      simpa only [if_true, Nat.add_right_comm] using next state
    | false =>
      simp only [Bool.false_eq_true, if_false, trackLine_add rules state count counted,
        checkLine_add, List.map_append, ← next, Nat.add_right_comm]

theorem lintLines_blank (source : List Text) :
    rules.lintLines state number (List.replicate count [] ++ source) =
      rules.lintLines state (number + count) source := by
  induction count generalizing number with
  | zero => rfl
  | succ count ih =>
    have skipped : rules.skipsLine (trim []) = true := rfl
    rw [List.replicate_succ, List.cons_append, lintLines, if_pos skipped, ih, Nat.add_right_comm]
    rfl

theorem lineFindings_breaks (code : Text) :
    rules.lineFindings (breaks count ++ code) =
      (rules.lineFindings code).map (·.movedDown count) := by
  unfold lineFindings
  rw [lines_breaks_append, lintLines_blank, lintLines_add rules .start count (Nat.le_refl 1)]

end RuleSet

variable (code : Text)

theorem mentions_break {needle : String} (filled : needle.toList ≠ [])
    (other : needle.toList.head? ≠ some '\n') :
    mentions needle ('\n' :: code) = mentions needle code :=
  occursIn_break code filled other

def FileCheck.SkipsBreak (check : FileCheck) : Prop :=
  ∀ code, check.advise ('\n' :: code) = check.advise code

theorem FileCheck.skipsBreak_when {applies : Text → Bool}
    (same : ∀ code, applies ('\n' :: code) = applies code) (advice : Advice) :
    (FileCheck.when applies advice).SkipsBreak := by
  intro code
  simp only [FileCheck.when, same]

theorem Cpp.skipsBreak_needs {name header : String}
    (filled : name.toList ≠ [] ∧ header.toList ≠ [])
    (other : name.toList.head? ≠ some '\n' ∧ header.toList.head? ≠ some '\n')
    (message suggestion : String) : (Cpp.needs name header message suggestion).SkipsBreak := by
  apply FileCheck.skipsBreak_when
  intro code
  rw [mentions_break code filled.1 other.1, mentions_break code filled.2 other.2]

theorem Cpp.skipsBreak {check : FileCheck} (h : check ∈ Cpp.rules.fileChecks) :
    check.SkipsBreak := by
  simp only [Cpp.rules, List.mem_cons, List.not_mem_nil, or_false] at h
  rcases h with rfl | rfl | rfl
  · exact skipsBreak_needs (by decide) (by decide) _ _
  · exact skipsBreak_needs (by decide) (by decide) _ _
  · apply FileCheck.skipsBreak_when
    intro code
    unfold Cpp.lacksNamespace
    rw [mentions_break, mentions_break, mentions_break] <;> decide

theorem Java.publicClassName?_break :
    Java.publicClassName? ('\n' :: code) = Java.publicClassName? code := by
  have declined : Java.publicClassHead.declines '\n' = true := by decide
  rw [Java.publicClassName?, Pattern.rests_of_declines code declined]
  rfl

theorem Java.skipsBreak {check : FileCheck} (h : check ∈ Java.rules.fileChecks) :
    check.SkipsBreak := by
  simp only [Java.rules, List.mem_cons, List.not_mem_nil, or_false] at h
  rcases h with rfl | rfl
  · intro code
    simp only [Java.classNameAdvice, publicClassName?_break, lower_break]
    cases Java.publicClassName? code with
    | none => rfl
    | some name =>
      dsimp only
      rw [occursIn_break]
      · simp
      · simp
  · apply FileCheck.skipsBreak_when
    intro code
    unfold Java.lacksMain
    rw [mentions_break, mentions_break] <;> decide

theorem skipsBreak {language : Language} {rules : RuleSet} (known : rules? language = some rules) :
    ∀ check ∈ rules.fileChecks, check.SkipsBreak := by
  cases language <;> simp only [rules?, Option.some.injEq, reduceCtorEq] at known <;> subst known
  · exact fun _ h => Cpp.skipsBreak h
  · exact fun _ h => Java.skipsBreak h
  · simp [Python.rules]

theorem RuleSet.fileFindings_breaks {rules : RuleSet}
    (blind : ∀ check ∈ rules.fileChecks, check.SkipsBreak) (count : Nat) :
    rules.fileFindings (breaks count ++ code) = rules.fileFindings code := by
  unfold fileFindings
  rw [List.filterMap_congr fun check inside => eq_of_break code (blind check inside) count]

end Lint

end SnippetGauge
