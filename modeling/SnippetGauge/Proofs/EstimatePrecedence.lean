import SnippetGauge.Proofs.LoopWords
import SnippetGauge.Proofs.ReturnEstimate

set_option autoImplicit false

namespace SnippetGauge

open Text

namespace ComplexityReport

theorem ofDepth_power_iff (depth : Nat) :
    (ofDepth depth).complexity.toList[3]? = some '^' ↔ 4 ≤ depth := by
  by_cases low : depth < 4
  next =>
    have table : ∀ depth < 4, (ofDepth depth).complexity.toList[3]? ≠ some '^' := by decide
    simp [table depth low, low]
  next =>
    obtain ⟨more, rfl⟩ := Nat.exists_eq_add_of_le (Nat.le_of_not_lt low)
    rw [Nat.add_comm]
    simp [ofDepth]

theorem ofDepth_complexity_inj {depth other : Nat} :
    (ofDepth depth).complexity = (ofDepth other).complexity ↔ depth = other := by
  constructor
  next =>
    intro same
    have power : 4 ≤ depth ↔ 4 ≤ other := by
      rw [← ofDepth_power_iff depth, ← ofDepth_power_iff other, same]
    by_cases low : depth < 4
    next =>
      have table : ∀ depth < 4, ∀ other < 4,
          (ofDepth depth).complexity = (ofDepth other).complexity → depth = other := by decide
      exact table depth low other (by omega) same
    next =>
      -- Four loops and more are told by the number itself.
      obtain ⟨more, rfl⟩ := Nat.exists_eq_add_of_le' (by omega : 4 ≤ depth)
      obtain ⟨rest, rfl⟩ := Nat.exists_eq_add_of_le' (by omega : 4 ≤ other)
      have spelled : (more + 4).repr = (rest + 4).repr := by simpa [ofDepth] using same
      have read := congrArg (fun digits => Nat.ofDigitChars 10 digits.toList 0) spelled
      simpa [Nat.toList_repr, Nat.ofDigitChars_toDigits] using read
  next => exact fun same => same ▸ rfl

end ComplexityReport

namespace Signature

/-- The name is in the code, and if it stands for a recursion there is a sign of one. -/
def Counts (code : Text) (language : Language) (signature : Signature) : Prop :=
  signature.pattern.occursIn code = true ∧
    (signature.requiresRecursion = true →
      recursiveFunction? code language ≠ none ∨ recursionWord.occursIn code = true)

def CountsFirst (code : Text) (language : Language) (signature : Signature) : Prop :=
  signature.Counts code language ∧
    ∃ before after, table = before ++ signature :: after ∧
      ∀ other ∈ before, ¬ other.Counts code language

end Signature

def NamesNothing (code : Text) (language : Language) : Prop :=
  ∀ signature ∈ Signature.table, ¬ signature.Counts code language

def LeftToLoops (code : Text) (language : Language) : Prop :=
  NamesNothing code language ∧ recursiveFunction? code language = none

/-- What decides the report: a known algorithm before a recursion, and a recursion before loops. -/
structure Precedence (code : Text) (language : Language) (report : ComplexityReport) : Prop where
  named : ¬ NamesNothing code language →
    ∃ signature, Signature.CountsFirst code language signature ∧ report = signature.report
  recursive : NamesNothing code language →
    (report.complexity = "O(2^n)" ↔ recursiveFunction? code language ≠ none)
  constant : LeftToLoops code language →
    (report.complexity = "O(1)" ↔ "for".toList ∉ words code ∧ "while".toList ∉ words code)
  looped : LeftToLoops code language → ∀ other second, LeftToLoops other second →
    ((baseReport other second).complexity = report.complexity ↔
      loopDepth other second = loopDepth code language)

def sortNote : String := "Built-in sorting operations are typically O(n log n)"

def hashNote : String := "Hash table operations are generally O(1) for lookups"

def noteText : (sorts hashes : Bool) → String
  | false, false => ""
  | true, false => "\nNote: " ++ sortNote
  | false, true => "\nNote: " ++ hashNote
  | true, true => "\nNote: " ++ sortNote ++ ". " ++ hashNote

section

variable {code : Text} {language : Language}

theorem Signature.applies_iff (signature : Signature) :
    signature.applies
        ((recursiveFunction? code language).isSome || recursionWord.occursIn code) code = true ↔
      signature.Counts code language := by
  cases needs : signature.requiresRecursion <;>
    simp [applies, Counts, needs, Option.isSome_iff_ne_none, and_comm]

theorem Signature.find?_eq_none_iff :
    find? ((recursiveFunction? code language).isSome || recursionWord.occursIn code) code = none ↔
      NamesNothing code language := by
  simp [find?, NamesNothing, ← applies_iff]

theorem Signature.countsFirst_of_find? {signature : Signature}
    (found : find? ((recursiveFunction? code language).isSome || recursionWord.occursIn code)
      code = some signature) : signature.CountsFirst code language := by
  obtain ⟨applies, before, after, split, others⟩ := List.find?_eq_some_iff_append.mp found
  refine ⟨applies_iff signature |>.mp applies, before, after, split, ?_⟩
  intro other inside
  have passed := others other inside
  rwa [Bool.not_eq_true', ← Bool.not_eq_true, applies_iff] at passed

theorem baseReport_of_namesNothing (nothing : NamesNothing code language) :
    baseReport code language =
      reportOf none (recursiveFunction? code language) (loopDepth code language) := by
  rw [baseReport_eq, Signature.find?_eq_none_iff.mpr nothing]

theorem baseReport_of_leftToLoops (left : LeftToLoops code language) :
    baseReport code language = .ofDepth (loopDepth code language) := by
  rw [baseReport_of_namesNothing left.1, left.2]
  rfl

theorem precedence_baseReport (code : Text) (language : Language) :
    Precedence code language (baseReport code language) := by
  constructor
  next =>
    intro named
    rw [← Signature.find?_eq_none_iff, ← ne_eq, Option.ne_none_iff_exists'] at named
    obtain ⟨signature, found⟩ := named
    refine ⟨signature, Signature.countsFirst_of_find? found, ?_⟩
    rw [baseReport_eq, found]
    rfl
  next =>
    intro nothing
    rw [baseReport_of_namesNothing nothing]
    cases recursiveFunction? code language with
    | some name => simp [reportOf, ComplexityReport.ofRecursion]
    | none =>
      have other := ComplexityReport.ofDepth_complexity_ne "O(2^n)" (by decide) (by decide)
        (loopDepth code language)
      simpa [reportOf] using other
  next =>
    intro left
    have label : (ComplexityReport.ofDepth 0).complexity = "O(1)" := rfl
    rw [baseReport_of_leftToLoops left, ← label, ComplexityReport.ofDepth_complexity_inj,
      loopDepth_eq_zero_iff, hasLoopWord_eq_false_iff]
  next =>
    intro left other second otherLeft
    rw [baseReport_of_leftToLoops left, baseReport_of_leftToLoops otherLeft,
      ComplexityReport.ofDepth_complexity_inj]

end

namespace ComplexityReport

theorem complexity_addNotes (report : ComplexityReport) (notes : List String) :
    (report.addNotes notes).complexity = report.complexity := by
  cases notes <;> simp [addNotes]

theorem explanation_addNotes_cons (report : ComplexityReport) (first : String)
    (later : List String) :
    (report.addNotes (first :: later)).explanation =
      report.explanation ++ ("\nNote: " ++ ". ".intercalate (first :: later)) := by
  simp only [addNotes, List.isEmpty_cons, Bool.false_eq_true, if_false, String.append_assoc]

theorem explanation_addNotes (report : ComplexityReport) (code : Text) :
    (report.addNotes (notes code)).explanation =
      report.explanation ++ noteText (callsSort code) (usesHashContainer code) := by
  unfold notes
  cases callsSort code <;> cases usesHashContainer code
  case false.false => simp [addNotes, noteText]
  all_goals
    refine (explanation_addNotes_cons report _ _).trans (congrArg (report.explanation ++ ·) ?_)
    decide

end ComplexityReport

theorem estimate_precedence (source : Text) (language : Language) :
    let code := stripAllComments source
    let base := baseReport code language
    Precedence code language base ∧
      (estimate source language).complexity = base.complexity ∧
      (estimate source language).explanation =
        base.explanation ++ noteText (callsSort code) (usesHashContainer code) :=
  ⟨precedence_baseReport _ language, ComplexityReport.complexity_addNotes _ _,
    ComplexityReport.explanation_addNotes _ _⟩

example : (estimate "for (;;) for (;;) for (;;) bubble_sort(rows);".toList .cpp).complexity =
    "O(n²)" := by decide

end SnippetGauge
