import SnippetGauge.Proofs.ReturnHeads
import SnippetGauge.Proofs.ReturnSignatures

set_option autoImplicit false

namespace SnippetGauge

open Text

theorem find?_eraseDups (accepts : Text → Bool) (names : List Text) :
    names.eraseDups.find? accepts = names.find? accepts := by
  cases names with
  | nil => rfl
  | cons name later =>
    rw [List.eraseDups_cons, List.find?_cons, List.find?_cons]
    cases found : accepts name with
    | true => rfl
    | false =>
      -- The copies of the name are not accepted either.
      rw [find?_eraseDups accepts (later.filter fun other => !other == name), List.find?_filter]
      apply List.find?_congr
      intro other _
      by_cases same : other = name <;> simp [same, found]
termination_by names.length
decreasing_by exact Nat.lt_succ_of_le (List.length_filter_le _ later)

def isRecursive (code name : Text) : Bool := isFunctionName name && decide (1 < callCount name code)

theorem recursiveFunction?_eq (code : Text) (language : Language) :
    recursiveFunction? code language =
      (declaredNames code language).find? (isRecursive code) := by
  unfold recursiveFunction? declaredFunctions
  rw [find?_eraseDups, List.find?_filter]
  apply List.find?_congr
  intro name _
  simp [isRecursive]

def firstRecursive? (code : Text) (heads : List TypedHead.Head) : Option Text :=
  (heads.map (·.name)).find? (isRecursive code)

section

variable {code : Text} {language : Language}

theorem isRecursive_dropReturns (h : ReturnsEndLines code) :
    isRecursive (dropReturns code) = isRecursive code := by
  funext name
  unfold isRecursive
  rw [callCount_dropReturns h]

theorem recursiveFunction?_typed (typed : language = .cpp ∨ language = .java) :
    recursiveFunction? code language =
      firstRecursive? code ((TypedHead.heads code).filter (!·.broken)) := by
  rw [recursiveFunction?_eq, firstRecursive?, ← TypedHead.names_eq_unbroken]
  rcases typed with rfl | rfl <;> rfl

theorem recursiveFunction?_typed_dropReturns (h : ReturnsEndLines code)
    (typed : language = .cpp ∨ language = .java) :
    recursiveFunction? (dropReturns code) language =
      firstRecursive? code (TypedHead.heads code) := by
  rw [recursiveFunction?_eq, firstRecursive?, ← TypedHead.names_dropReturns h,
    isRecursive_dropReturns h]
  rcases typed with rfl | rfl <;> rfl

theorem recursiveFunction?_untyped_dropReturns (h : ReturnsEndLines code)
    (untyped : ¬ (language = .cpp ∨ language = .java)) :
    recursiveFunction? (dropReturns code) language = recursiveFunction? code language := by
  rw [recursiveFunction?_eq, recursiveFunction?_eq, isRecursive_dropReturns h]
  cases language with
  | cpp | java => simp at untyped
  | python | unidentified =>
    simp only [declaredNames, wordSites_dropReturns h, namesAfter_dropReturns]

end

namespace ComplexityReport

theorem ofRecursion_inj {name other : Text} :
    ofRecursion name = ofRecursion other ↔ name = other := by
  simp [ofRecursion, String.append_assoc, String.ofList_inj]

theorem addNotes_inj {report other : ComplexityReport} {notes : List String} :
    report.addNotes notes = other.addNotes notes ↔ report = other := by
  cases report
  cases other
  unfold addNotes
  split <;> simp

theorem ofDepth_label (depth : Nat) :
    (ofDepth depth).complexity.toList[2]? = some '1' ∨
      (ofDepth depth).complexity.toList[2]? = some 'n' := by
  unfold ofDepth
  split
  · exact .inl (by decide)
  · exact .inr (by decide)
  · exact .inr (by decide)
  · exact .inr (by decide)
  · exact .inr (by simp)

theorem ofDepth_complexity_ne (label : String) (one : label.toList[2]? ≠ some '1')
    (letter : label.toList[2]? ≠ some 'n') (depth : Nat) :
    (ofDepth depth).complexity ≠ label := by
  rintro rfl
  exact (ofDepth_label depth).elim one letter

theorem ofDepth_ne_ofRecursion (depth : Nat) (name : Text) : ofDepth depth ≠ ofRecursion name :=
  fun same => ofDepth_complexity_ne "O(2^n)" (by decide) (by decide) depth
    (congrArg ComplexityReport.complexity same)

theorem ofDepth_ne_fibonacci (depth : Nat) : ofDepth depth ≠ Signature.fibonacci.report :=
  fun same => ofDepth_complexity_ne "O(2^n)" (by decide) (by decide) depth
    (congrArg ComplexityReport.complexity same)

end ComplexityReport

def reportOf (found : Option Signature) (recursive : Option Text) (depth : Nat) :
    ComplexityReport :=
  match found with
  | some signature => signature.report
  | none =>
    match recursive with
    | some name => .ofRecursion name
    | none => .ofDepth depth

theorem baseReport_eq (code : Text) (language : Language) :
    baseReport code language =
      reportOf
        (Signature.find?
          ((recursiveFunction? code language).isSome || Signature.recursionWord.occursIn code) code)
        (recursiveFunction? code language) (loopDepth code language) :=
  rfl

theorem reportOf_none_inj {recursive other : Option Text} {depth : Nat} :
    reportOf none recursive depth = reportOf none other depth ↔ recursive = other := by
  cases recursive with
  | none =>
    cases other with
    | none => simp
    | some name => simpa [reportOf] using ComplexityReport.ofDepth_ne_ofRecursion depth name
  | some name =>
    cases other with
    | none => simpa [reportOf] using (ComplexityReport.ofDepth_ne_ofRecursion depth name).symm
    | some another => simp [reportOf, ComplexityReport.ofRecursion_inj]

/-- It shows in the report which of the two is taken for the recursive function. -/
def RecursionDecides (code : Text) (first second : Option Text) : Prop :=
  Signature.find? false code = none ∧
    if Signature.fibonacci.pattern.occursIn code then
      Signature.recursionWord.occursIn code = false ∧ first.isSome ≠ second.isSome
    else first ≠ second

theorem reportOf_find?_eq_iff (code : Text) (first second : Option Text) (depth : Nat) :
    reportOf (Signature.find? (first.isSome || Signature.recursionWord.occursIn code) code)
          first depth =
        reportOf (Signature.find? (second.isSome || Signature.recursionWord.occursIn code) code)
          second depth ↔
      ¬ RecursionDecides code first second := by
  have whole := Signature.find?_true code
  cases named : Signature.find? false code with
  | some signature =>
    rw [named] at whole
    have always (recursive : Bool) : Signature.find? recursive code = some signature := by
      cases recursive with
      | true => exact whole
      | false => exact named
    simp [RecursionDecides, always, reportOf]
  | none =>
    rw [named, Option.none_or] at whole
    unfold RecursionDecides
    by_cases fibonacci : Signature.fibonacci.pattern.occursIn code = true
    · rw [if_pos fibonacci] at whole
      have ne := ComplexityReport.ofDepth_ne_fibonacci depth
      cases Signature.recursionWord.occursIn code with
      | true => simp [whole, fibonacci, reportOf]
      | false =>
        cases first <;> cases second <;> simp [whole, named, fibonacci, ne, ne.symm, reportOf]
    · rw [if_neg fibonacci] at whole
      have never (recursive : Bool) : Signature.find? recursive code = none := by
        cases recursive with
        | true => exact whole
        | false => exact named
      simp [never, fibonacci, reportOf_none_inj]

theorem not_recursionDecides_self (code : Text) (recursive : Option Text) :
    ¬ RecursionDecides code recursive recursive := by
  simp [RecursionDecides]

section

variable {code source : Text}

theorem baseReport_ne_binarySearch (language : Language)
    (misses : Signature.binarySearch.pattern.occursIn code = false) :
    baseReport code language ≠ Signature.binarySearch.report := by
  intro same
  have label := congrArg ComplexityReport.complexity same
  rw [baseReport_eq] at label
  cases found : Signature.find? ((recursiveFunction? code language).isSome ||
      Signature.recursionWord.occursIn code) code with
  | some signature =>
    rw [found] at label
    exact Signature.label_ne_of_find? found misses label
  | none =>
    rw [found] at label
    cases recursive : recursiveFunction? code language with
    | some name =>
      rw [recursive] at label
      exact absurd label (by decide : "O(2^n)" ≠ "O(log n)")
    | none =>
      rw [recursive] at label
      exact ComplexityReport.ofDepth_complexity_ne "O(log n)" (by decide) (by decide) _ label

/-- Among the heads of typed functions some end with a carriage return, and without them the first
recursive function is another. -/
def LosesRecursion (code : Text) (language : Language) : Prop :=
  (language = .cpp ∨ language = .java) ∧
    RecursionDecides code (firstRecursive? code ((TypedHead.heads code).filter (!·.broken)))
      (firstRecursive? code (TypedHead.heads code))

theorem baseReport_dropReturns_iff (h : ReturnsEndLines code) (language : Language) :
    baseReport code language = baseReport (dropReturns code) language ↔
      ¬ Signature.TearsSearch code ∧ ¬ LosesRecursion code language := by
  by_cases torn : Signature.TearsSearch code
  · have bare : baseReport (dropReturns code) language = Signature.binarySearch.report := by
      rw [baseReport_eq, Signature.find?_of_tearsSearch h torn]
      rfl
    simp [torn, bare, baseReport_ne_binarySearch language torn.2.2.1]
  · have hint : Signature.recursionWord.occursIn (dropReturns code) =
        Signature.recursionWord.occursIn code :=
      Pattern.occursIn_dropReturns (by decide) h
    rw [baseReport_eq, baseReport_eq, loopDepth_dropReturns h, hint,
      Signature.find?_dropReturns h torn, reportOf_find?_eq_iff]
    unfold LosesRecursion
    by_cases typed : language = .cpp ∨ language = .java
    · rw [recursiveFunction?_typed typed, recursiveFunction?_typed_dropReturns h typed]
      simp [torn, typed]
    · rw [recursiveFunction?_untyped_dropReturns h typed]
      simp [torn, typed, not_recursionDecides_self]

theorem estimate_dropReturns_iff (h : ReturnsEndLines source) (language : Language) :
    estimate source language = estimate (dropReturns source) language ↔
      ¬ Signature.TearsSearch (stripAllComments source) ∧
        ¬ LosesRecursion (stripAllComments source) language := by
  have ends := returnsEndLines_stripAllComments h
  unfold estimate
  simp only [stripAllComments_dropReturns h, notes_dropReturns ends]
  rw [ComplexityReport.addNotes_inj, baseReport_dropReturns_iff ends]

theorem estimate_withReturns_iff (plain : '\r' ∉ source) (language : Language) :
    estimate (withReturns source) language = estimate source language ↔
      ¬ Signature.TearsSearch (stripAllComments (withReturns source)) ∧
        ¬ LosesRecursion (stripAllComments (withReturns source)) language := by
  have same := estimate_dropReturns_iff (returnsEndLines_withReturns plain) language
  rwa [dropReturns_withReturns plain] at same

end

def braceOnNextLine : Text := "int f(int n)\n\x7b\n  return f(n-1);\n\x7d".toList

theorem estimate_braceOnNextLine :
    estimate (withReturns braceOnNextLine) .cpp ≠ estimate braceOnNextLine .cpp := by
  decide +kernel

theorem losesRecursion_braceOnNextLine :
    '\r' ∉ braceOnNextLine ∧
      LosesRecursion (stripAllComments (withReturns braceOnNextLine)) .cpp := by
  have plain : '\r' ∉ braceOnNextLine := by decide
  have whole : ¬ Signature.TearsSearch (stripAllComments (withReturns braceOnNextLine)) := by
    unfold Signature.TearsSearch
    decide
  have same := estimate_withReturns_iff plain .cpp
  refine ⟨plain, ?_⟩
  by_contra keeps
  exact estimate_braceOnNextLine (same.mpr ⟨whole, keeps⟩)

theorem estimate_withReturns_ne :
    ¬ ∀ (source : Text) (language : Language), '\r' ∉ source →
      estimate (withReturns source) language = estimate source language := by
  intro same
  exact estimate_braceOnNextLine (same braceOnNextLine .cpp (by decide))

example : Signature.TearsSearch (withReturns "binary\nsearch".toList) := by
  unfold Signature.TearsSearch
  decide

end SnippetGauge
