import Mathlib.Data.List.Find
import SnippetGauge.Proofs.ReturnHeads
import SnippetGauge.Proofs.TokenLines
import SnippetGauge.Report

set_option autoImplicit false

namespace SnippetGauge

open Text

variable (text : Text)

namespace Text

def breaks (count : Nat) : Text := List.replicate count '\n'

theorem eq_of_break {α : Type} {f : Text → α} (same : ∀ text, f ('\n' :: text) = f text)
    (count : Nat) : f (breaks count ++ text) = f text := by
  induction count with
  | zero => rfl
  | succ count ih => exact (same _).trans ih

theorem lines_breaks_append (count : Nat) :
    lines (breaks count ++ text) = List.replicate count [] ++ lines text := by
  induction count with
  | zero => rfl
  | succ count ih =>
    rw [breaks, List.replicate_succ, List.cons_append, lines_break]
    exact congrArg ([] :: ·) ih

theorem wordSites_break : wordSites ('\n' :: text) = wordSites text := rfl

theorem words_break : words ('\n' :: text) = words text := rfl

theorem callCount_break (name : Text) : callCount name ('\n' :: text) = callCount name text := by
  rw [callCount, callCount, wordSites_break]

theorem occursIn_break {needle : Text} (filled : needle ≠ []) (other : needle.head? ≠ some '\n') :
    occursIn needle ('\n' :: text) = occursIn needle text := by
  have missing : dropPrefix? needle ('\n' :: text) = none := by
    cases needle with
    | nil => contradiction
    | cons c more =>
      have ne : c ≠ '\n' := by simpa using other
      simp [dropPrefix?, ne]
  unfold occursIn
  rw [afterFirst?, missing]

theorem nextToCased_append_break (before : Text) :
    nextToCased (before ++ ['\n']) = nextToCased before := by
  unfold nextToCased
  rw [List.find?_append]
  cases before.find? fun c => !caselessMarkRanges.has c with
  | some c => rfl
  | none => decide +kernel

theorem lowerAfter_append_break (before : Text) :
    lowerAfter (before ++ ['\n']) text = lowerAfter before text := by
  induction text generalizing before with
  | nil => rfl
  | cons c rest ih =>
    rw [lowerAfter, lowerAfter, ← List.cons_append, ih]
    simp only [lowerSigma, nextToCased_append_break]

theorem lower_break : lower ('\n' :: text) = '\n' :: lower text := by
  have small : smallLetter '\n' = '\n' := by decide
  have later := lowerAfter_append_break text []
  unfold lower
  rw [lowerAfter, small]
  exact congrArg ('\n' :: ·) later

end Text

namespace Pattern

/-- No match of the pattern begins with this character, and none is empty. -/
def declines (c : Char) : Pattern → Bool
  | nothing => false
  | one accepts => !accepts c
  | run _ => false
  | seq first _ => first.declines c
  | alt left right => left.declines c && right.declines c

variable {p : Pattern} {c : Char}

theorem rests_of_declines (h : p.declines c = true) : p.rests (c :: text) = [] := by
  induction p with
  | nothing => simp [declines] at h
  | one accepts => simpa [declines, rests] using h
  | run accepts => simp [declines] at h
  | seq first second ih => rw [rests, ih h, List.flatMap_nil]
  | alt left right ihLeft ihRight =>
    rw [declines, Bool.and_eq_true] at h
    rw [rests, ihLeft h.1, ihRight h.2, List.append_nil]

theorem occursIn_of_declines (h : p.declines c = true) :
    p.occursIn (c :: text) = p.occursIn text := by
  rw [occursIn, startsText, rests_of_declines text h]
  rfl

end Pattern

theorem Signature.find?_break (recursive : Bool) :
    Signature.find? recursive ('\n' :: text) = Signature.find? recursive text := by
  have declined : ∀ signature ∈ table, signature.pattern.declines '\n' = true := by decide
  apply List.find?_congr
  intro signature inside
  rw [applies, applies, Pattern.occursIn_of_declines text (declined signature inside)]

namespace TypedHead

theorem read?_break : read? ('\n' :: text) = none := by
  have missing : afterTypePart? ('\n' :: text) = none := by
    simp [afterTypePart?, afterTypeWord?, show isTypeStart '\n' = false from rfl]
  have gap : ('\n' :: text).dropWhile isGap = '\n' :: text := rfl
  rw [read?, gap, namePlaces_of_none missing]
  rfl

theorem namesFrom_eq_of_le {left more : Nat} {starts : List Text}
    (within : ∀ start ∈ starts, start.length ≤ left) (le : left ≤ more) :
    namesFrom more starts = namesFrom left starts := by
  induction starts with
  | nil => rfl
  | cons start later ih =>
    have near := within start (by simp)
    cases found : read? start with
    | some head => rw [namesFrom_some (by omega) found, namesFrom_some near found]
    | none =>
      rw [namesFrom_none found, namesFrom_none found]
      exact ih fun other inside => within other (by simp [inside])

theorem names_break : names ('\n' :: text) = names text := by
  have starts : lineStarts ('\n' :: text) = ('\n' :: text) :: lineStarts text := rfl
  -- The break is a line start with no head, and leaves one character more to read than needed.
  unfold names
  rw [starts, namesFrom_none (read?_break text)]
  apply namesFrom_eq_of_le
  · exact fun start inside => (lineStarts_suffix inside).length_le
  · simp

end TypedHead

theorem declaredNames_break (language : Language) :
    declaredNames ('\n' :: text) language = declaredNames text language := by
  cases language with
  | cpp | java => exact TypedHead.names_break text
  | python | unidentified => rw [declaredNames, declaredNames, wordSites_break]

theorem loopDepth_break (language : Language) :
    loopDepth ('\n' :: text) language = loopDepth text language := by
  unfold loopDepth
  rw [lines_break]
  rfl

theorem recursiveFunction?_break (language : Language) :
    recursiveFunction? ('\n' :: text) language = recursiveFunction? text language := by
  unfold recursiveFunction? declaredFunctions
  rw [declaredNames_break]
  exact List.find?_congr fun name _ => by rw [callCount_break]

theorem baseReport_break (language : Language) :
    baseReport ('\n' :: text) language = baseReport text language := by
  have word : Signature.recursionWord.declines '\n' = true := by decide
  simp only [baseReport, recursiveFunction?_break, Pattern.occursIn_of_declines text word,
    Signature.find?_break, loopDepth_break]

theorem notes_break : notes ('\n' :: text) = notes text := by
  have sorts : callsSort ('\n' :: text) = callsSort text := by
    rw [callsSort, callsSort, wordSites_break]
  have hashes : usesHashContainer ('\n' :: text) = usesHashContainer text := by
    rw [usesHashContainer, usesHashContainer, words_break]
  rw [notes, notes, sorts, hashes]

end SnippetGauge
