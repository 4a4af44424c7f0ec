import Mathlib.Data.List.Chain
import SnippetGauge.Indentation

set_option autoImplicit false

namespace SnippetGauge.Indentation

open Text

def stack (state : Indentation) : List Nat := state.levels.reverse

def run (calls : List (Int × Text)) : Indentation :=
  calls.foldl (fun state call => (state.feed call.1 call.2).2) start

structure Nested (state : Indentation) : Prop where
  apart : state.levels.Pairwise fun inner outer => outer + 4 ≤ inner
  indented : ∀ level ∈ state.levels, 4 ≤ level

variable {state : Indentation} {line : Text} {width : Nat}

theorem Nested.closeDeeper (nested : state.Nested) (width : Nat) :
    (state.closeDeeper width).Nested where
  apart := nested.apart.sublist (List.dropWhile_sublist _)
  indented level inside := nested.indented level ((List.dropWhile_sublist _).subset inside)

theorem Nested.levels_closeDeeper (nested : state.Nested) (width : Nat) :
    (state.closeDeeper width).levels = state.levels.filter (· ≤ width) := by
  rcases state with ⟨levels⟩
  have apart := nested.apart
  clear nested
  induction levels with
  | nil => rfl
  | cons level outer ih =>
    rw [List.pairwise_cons] at apart
    by_cases deeper : width < level
    next =>
      have closed : ¬ level ≤ width := by omega
      simpa [Indentation.closeDeeper, deeper, closed] using ih apart.2
    next =>
      have keeps : ∀ other ∈ level :: outer, decide (other ≤ width) = true := by
        intro other inside
        rcases List.mem_cons.mp inside with rfl | inside
        · simp; omega
        · have := apart.1 other inside
          simp; omega
      rw [List.filter_eq_self.mpr keeps]
      simp [Indentation.closeDeeper, deeper]

theorem Nested.le_of_mem_closeDeeper (nested : state.Nested) {level : Nat}
    (inside : level ∈ (state.closeDeeper width).levels) : level ≤ width := by
  rw [nested.levels_closeDeeper] at inside
  simpa using (List.mem_filter.mp inside).2

theorem Nested.openBlock (nested : state.Nested)
    (within : ∀ level ∈ state.levels, level ≤ leadingBlanks line) :
    (state.openBlock line).Nested := by
  by_cases opens : opensBlock line = true
  next =>
    constructor
    · simpa [Indentation.openBlock, opens] using ⟨within, nested.apart⟩
    · simpa [Indentation.openBlock, opens] using nested.indented
  next => simpa [Indentation.openBlock, opens] using nested

theorem feed_snd (state : Indentation) (number : Int) (line : Text) :
    (state.feed number line).2 =
      if (state.feed number line).1 = .invalidLine then state.closeDeeper (leadingBlanks line)
      else (state.closeDeeper (leadingBlanks line)).openBlock line := by
  simp only [feed]
  split
  next => split <;> simp
  next => simp

theorem Nested.feed (nested : state.Nested) (number : Int) (line : Text) :
    (state.feed number line).2.Nested := by
  have kept := nested.closeDeeper (leadingBlanks line)
  rw [feed_snd]
  split
  next => exact kept
  next => exact kept.openBlock fun _ => nested.le_of_mem_closeDeeper

theorem nested_start : start.Nested := ⟨.nil, by simp [start]⟩

theorem run_nested (calls : List (Int × Text)) : (run calls).Nested := by
  have steps (state : Indentation) (nested : state.Nested) :
      (calls.foldl (fun state call => (state.feed call.1 call.2).2) state).Nested := by
    induction calls generalizing state with
    | nil => exact nested
    | cons call later ih => exact ih _ (nested.feed call.1 call.2)
  exact steps start nested_start

/-- Seen from the outermost level, the levels go up by at least a block's width. -/
structure Climbs (stack : List Nat) : Prop where
  increasing : stack.Pairwise (· < ·)
  lowest : ∀ level ∈ stack.head?, 4 ≤ level
  apart : stack.IsChain fun outer inner => outer + 4 ≤ inner

theorem Nested.climbs (nested : state.Nested) : Climbs state.stack where
  increasing := by
    rw [stack, List.pairwise_reverse]
    exact nested.apart.imp fun apart => by omega
  lowest level lowest := nested.indented level (by
    simpa [stack] using List.mem_of_mem_head? lowest)
  apart := by
    apply List.Pairwise.isChain
    rw [stack, List.pairwise_reverse]
    exact nested.apart

def keptLevels (levels : List Nat) (line : Text) : List Nat :=
  levels.filter (· ≤ leadingBlanks line)

def StandsBeside (levels : List Nat) (line : Text) (innermost : Nat) : Prop :=
  (keptLevels levels line).max? = some innermost ∧ innermost ≠ leadingBlanks line

theorem Nested.stack_closeDeeper (nested : state.Nested) (line : Text) :
    (state.closeDeeper (leadingBlanks line)).stack = keptLevels state.stack line := by
  simp [stack, keptLevels, nested.levels_closeDeeper, List.filter_reverse]

theorem stack_openBlock (state : Indentation) (line : Text) :
    (state.openBlock line).stack =
      state.stack ++ if (trim line).getLast? = some ':' then [leadingBlanks line + 4] else [] := by
  by_cases opens : (trim line).getLast? = some ':' <;>
    simp [openBlock, opensBlock, stack, opens]

theorem Nested.max?_stack (nested : state.Nested) : state.stack.max? = state.levels.head? := by
  rcases state with ⟨_ | ⟨level, outer⟩⟩
  · rfl
  · have highest : ∀ other ∈ (level :: outer).reverse, other ≤ level := by
      intro other inside
      rcases List.mem_cons.mp (List.mem_reverse.mp inside) with rfl | inside
      · exact Nat.le_refl _
      · have := (List.pairwise_cons.mp nested.apart).1 other inside
        omega
    exact List.max?_eq_some_iff.mpr ⟨by simp [stack], highest⟩

theorem Nested.misplaced_iff (nested : state.Nested) (line : Text) :
    (state.closeDeeper (leadingBlanks line)).misplaced (leadingBlanks line) = true ↔
      ∃ innermost, StandsBeside state.stack line innermost := by
  have kept := nested.closeDeeper (leadingBlanks line)
  have within (level : Nat) (inside : level ∈ (state.closeDeeper (leadingBlanks line)).levels) :
      level ≤ leadingBlanks line := nested.le_of_mem_closeDeeper inside
  simp only [StandsBeside, ← nested.stack_closeDeeper, kept.max?_stack]
  generalize state.closeDeeper (leadingBlanks line) = closed at kept within ⊢
  rcases closed with ⟨_ | ⟨level, outer⟩⟩
  · simp [misplaced]
  · have indented : 4 ≤ level := kept.indented level (by simp)
    have shallow : level ≤ leadingBlanks line := within level (by simp)
    have inside : leadingBlanks line ≠ 0 := by omega
    simp [misplaced, inside, ne_comm]

theorem Nested.expected_eq (nested : state.Nested) {innermost : Nat}
    (beside : StandsBeside state.stack line innermost) :
    (state.closeDeeper (leadingBlanks line)).expected = innermost := by
  have found := beside.1
  rw [← nested.stack_closeDeeper, (nested.closeDeeper _).max?_stack] at found
  simp [expected, List.headD_eq_head?_getD, found]

theorem StandsBeside.lt {levels : List Nat} {innermost : Nat}
    (beside : StandsBeside levels line innermost) : innermost < leadingBlanks line := by
  have inside := (List.max?_eq_some_iff.mp beside.1).1
  have shallow : innermost ≤ leadingBlanks line := by
    simpa using (List.mem_filter.mp inside).2
  have other := beside.2
  omega

theorem Nested.feed_answer (nested : state.Nested) (number : Int) (line : Text) :
    (∃ innermost, StandsBeside state.stack line innermost ∧
      (state.feed number line).1 =
        if number < 1 then .invalidLine
        else .found ((advice innermost (leadingBlanks line)).atLine number.toNat)) ∨
    (¬ ∃ innermost, StandsBeside state.stack line innermost) ∧
      (state.feed number line).1 = .quiet := by
  have beside := nested.misplaced_iff line
  by_cases due : ∃ innermost, StandsBeside state.stack line innermost
  next =>
    obtain ⟨innermost, stands⟩ := due
    refine .inl ⟨innermost, stands, ?_⟩
    simp only [Indentation.feed, beside.mpr ⟨innermost, stands⟩, if_true, nested.expected_eq stands]
    split <;> rfl
  next =>
    refine .inr ⟨due, ?_⟩
    simp [Indentation.feed, mt beside.mp due]

/-- What a call answers and leaves open, by the levels before it and the line alone. -/
structure Declared (levels : List Nat) (number : Int) (line : Text) (answer : Feedback)
    (after : List Nat) : Prop where
  refused : answer = .invalidLine ↔
    number < 1 ∧ ∃ innermost, StandsBeside levels line innermost
  closed : answer = .invalidLine → after = keptLevels levels line
  opened : answer ≠ .invalidLine → after =
    keptLevels levels line ++
      if (trim line).getLast? = some ':' then [leadingBlanks line + 4] else []
  reported : answer ≠ .invalidLine →
    ((∃ finding, answer = .found finding) ↔ ∃ innermost, StandsBeside levels line innermost)
  advised : ∀ finding, answer = .found finding → ∃ innermost,
    StandsBeside levels line innermost ∧ innermost < leadingBlanks line ∧
      (finding.line : Int) = number ∧ finding.message = "Inconsistent indentation" ∧
      finding.suggestion =
        "Expected " ++ toString innermost ++ " spaces, got " ++ toString (leadingBlanks line)

theorem Nested.feed_declared (nested : state.Nested) (number : Int) (line : Text) :
    Declared state.stack number line (state.feed number line).1
      (state.feed number line).2.stack := by
  have after := congrArg stack (feed_snd state number line)
  have closed (refused : (state.feed number line).1 = .invalidLine) :
      (state.feed number line).2.stack = keptLevels state.stack line := by
    rw [after, if_pos refused, nested.stack_closeDeeper]
  have opened (accepted : (state.feed number line).1 ≠ .invalidLine) :
      (state.feed number line).2.stack = keptLevels state.stack line ++
        if (trim line).getLast? = some ':' then [leadingBlanks line + 4] else [] := by
    rw [after, if_neg accepted, stack_openBlock, nested.stack_closeDeeper]
  rcases nested.feed_answer number line with ⟨innermost, beside, answer⟩ | ⟨level, answer⟩
  next =>
    have due : ∃ innermost, StandsBeside state.stack line innermost := ⟨innermost, beside⟩
    by_cases below : number < 1
    next =>
      rw [if_pos below] at answer
      refine ⟨?_, closed, opened, ?_, ?_⟩ <;> simp [answer, below, due]
    next =>
      rw [if_neg below] at answer
      refine ⟨?_, closed, opened, ?_, ?_⟩
      · simp [answer, below]
      · simp [answer, due]
      · intro finding found
        obtain rfl := Feedback.found.inj (answer.symm.trans found)
        have counted : (number.toNat : Int) = number := by omega
        exact ⟨innermost, beside, beside.lt, counted, rfl, rfl⟩
  next => refine ⟨?_, closed, opened, ?_, ?_⟩ <;> simp [answer, level]

theorem run_feed_declared (calls : List (Int × Text)) :
    Climbs (run calls).stack ∧
      ∀ number line, Declared (run calls).stack number line ((run calls).feed number line).1
        ((run calls).feed number line).2.stack :=
  ⟨(run_nested calls).climbs, (run_nested calls).feed_declared⟩

-- The second line is refused its finding and opens no block, though it ends in a colon.
example : (run [(1, "if x:".toList), (0, "      if y:".toList)]).stack = [4] := by decide

end SnippetGauge.Indentation
