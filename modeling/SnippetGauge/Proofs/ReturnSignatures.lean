import Mathlib.Data.List.Find
import SnippetGauge.Proofs.ReturnPatterns

set_option autoImplicit false

namespace SnippetGauge

open Text

namespace Pattern

variable {tail : Pattern} {accepts : Char → Bool}

theorem startsText_optional_nil :
    (seq (optional (one accepts)) tail).startsText [] = tail.startsText [] := by
  simp [startsText_seq, optional, rests]

theorem startsText_optional_cons (c : Char) (rest : Text) :
    (seq (optional (one accepts)) tail).startsText (c :: rest) =
      (accepts c && tail.startsText rest || tail.startsText (c :: rest)) := by
  rw [startsText_seq]
  cases goes : accepts c <;> simp [optional, rests, goes]

theorem startsText_char_nil (d : Char) : (seq (char d) tail).startsText [] = false := rfl

theorem startsText_char_cons (d c : Char) (rest : Text) :
    (seq (char d) tail).startsText (c :: rest) = (c == d && tail.startsText rest) := by
  rw [startsText_seq]
  cases same : c == d <;> simp [char, rests, same]

theorem startsText_letters_of_ne {letter c : Char} (other : sameLetter letter c = false)
    (more rest : Text) : (seq (letters (letter :: more)) tail).startsText (c :: rest) = false := by
  simp [startsText_seq, letters, all, rests, other]

theorem startsText_optional_dropReturns {text : Text} (within : tail.avoidsBreaks = true)
    (filled : tail.startsText [] = false)
    (inside : ∀ rest, tail.startsText ('\n' :: rest) = false) (goes : accepts '\n' = true)
    (h : ReturnsEndLines text) :
    (seq (optional (one accepts)) tail).startsText (dropReturns text) =
      ((seq (optional (one accepts)) tail).startsText text ||
        (seq (char '\r') (seq (char '\n') tail)).startsText text) := by
  have here := startsText_dropReturns within h
  cases text, h using ReturnsEndLines.induct_ends with
  | nil => simp [startsText_char_nil]
  | last =>
    rw [startsText_optional_cons, startsText_char_cons, ← here]
    simp [startsText_optional_nil, startsText_char_nil, filled]
  | lineEnd rest h =>
    have later := startsText_dropReturns within h.tail.tail
    rw [dropReturns_return, dropReturns_break] at here ⊢
    rw [startsText_optional_cons, startsText_optional_cons, startsText_char_cons, ← here]
    simp [startsText_char_cons, inside, goes, later]
  | cons c rest h plain =>
    have later := startsText_dropReturns within h.tail
    rw [dropReturns_cons plain] at here ⊢
    simp [startsText_optional_cons, startsText_char_cons, plain, here, later]

end Pattern

namespace Signature

open Pattern

def tornSearch : Pattern := .all [word "binary", .char '\r', .char '\n', word "search"]

theorem startsText_binarySearch {text : Text} (h : ReturnsEndLines text) :
    binarySearch.pattern.startsText (dropReturns text) =
      (binarySearch.pattern.startsText text || tornSearch.startsText text) := by
  let tail : Pattern := seq (word "search") nothing
  have within : tail.avoidsBreaks = true := by decide
  have filled : tail.startsText [] = false := by decide
  have inside (rest : Text) : tail.startsText ('\n' :: rest) = false :=
    startsText_letters_of_ne (by decide) _ rest
  have goes : isBetweenWords '\n' = true := by decide
  change (seq (word "binary") (seq (optional (one isBetweenWords)) tail)).startsText _ =
    ((seq (word "binary") (seq (optional (one isBetweenWords)) tail)).startsText text ||
      (seq (word "binary") (seq (char '\r') (seq (char '\n') tail))).startsText text)
  rw [startsText_seq, startsText_seq, startsText_seq, rests_dropReturns (by decide) h,
    List.any_map, Bool.eq_iff_iff]
  simp only [Bool.or_eq_true, List.any_eq_true, ← exists_or, ← and_or_left]
  apply exists_congr
  intro rest
  apply and_congr_right
  intro there
  have same := startsText_optional_dropReturns within filled inside goes
    (h.part (rests_suffix there).isInfix)
  rw [Function.comp, same, Bool.or_eq_true]

theorem occursIn_binarySearch {text : Text} (h : ReturnsEndLines text) :
    binarySearch.pattern.occursIn (dropReturns text) =
      (binarySearch.pattern.occursIn text || tornSearch.occursIn text) := by
  induction text with
  | nil => exact startsText_binarySearch h
  | cons c rest ih =>
    by_cases dropped : c = '\r'
    · subst dropped
      have search : binarySearch.pattern.startsText ('\r' :: rest) = false :=
        startsText_letters_of_ne (by decide) _ rest
      have torn : tornSearch.startsText ('\r' :: rest) = false :=
        startsText_letters_of_ne (by decide) _ rest
      rw [dropReturns_return, ih h.tail, Pattern.occursIn, Pattern.occursIn, search, torn,
        Bool.false_or, Bool.false_or]
    · have here := startsText_binarySearch h
      rw [dropReturns_cons dropped] at here ⊢
      rw [Pattern.occursIn, Pattern.occursIn, Pattern.occursIn, here, ih h.tail]
      ac_rfl

/-- Only the line ends hide a binary search, and no signature before it applies. -/
def TearsSearch (code : Text) : Prop :=
  quickSort.pattern.occursIn code = false ∧ mergeSort.pattern.occursIn code = false ∧
    binarySearch.pattern.occursIn code = false ∧ tornSearch.occursIn code = true

theorem table_split : table = table.take 2 ++ binarySearch :: table.drop 3 := rfl

def others : List Signature := table.take 2 ++ table.drop 3

theorem avoidsBreaks_of_mem_others :
    ∀ signature ∈ others, signature.pattern.avoidsBreaks = true := by
  decide

variable {code : Text}

theorem applies_dropReturns (h : ReturnsEndLines code) {signature : Signature}
    (other : signature ∈ others) (recursive : Bool) :
    signature.applies recursive (dropReturns code) = signature.applies recursive code := by
  unfold applies
  rw [occursIn_dropReturns (avoidsBreaks_of_mem_others signature other) h]

theorem find?_others_dropReturns (h : ReturnsEndLines code) {signatures : List Signature}
    (part : signatures ⊆ others) (recursive : Bool) :
    signatures.find? (·.applies recursive (dropReturns code)) =
      signatures.find? (·.applies recursive code) :=
  List.find?_congr fun _ inside => applies_dropReturns h (part inside) recursive

theorem front_find?_eq_none_iff (recursive : Bool) :
    (table.take 2).find? (·.applies recursive code) = none ↔
      quickSort.pattern.occursIn code = false ∧ mergeSort.pattern.occursIn code = false := by
  simp [table, applies, quickSort, mergeSort]

theorem find?_dropReturns (h : ReturnsEndLines code) (whole : ¬ TearsSearch code)
    (recursive : Bool) : find? recursive (dropReturns code) = find? recursive code := by
  have front := find?_others_dropReturns h (List.subset_append_left _ (table.drop 3)) recursive
  have back := find?_others_dropReturns h (List.subset_append_right (table.take 2) _) recursive
  unfold find?
  rw [table_split, List.find?_append, List.find?_append, List.find?_cons, List.find?_cons, front,
    back]
  cases found : (table.take 2).find? (·.applies recursive code) with
  | some signature => rfl
  | none =>
    have first := (front_find?_eq_none_iff recursive).mp found
    have same : binarySearch.pattern.occursIn (dropReturns code) =
        binarySearch.pattern.occursIn code := by
      rw [occursIn_binarySearch h]
      cases misses : binarySearch.pattern.occursIn code with
      | true => rfl
      | false =>
        rw [Bool.false_or, Bool.eq_false_iff]
        intro torn
        exact whole ⟨first.1, first.2, misses, torn⟩
    simp only [applies, same]

theorem find?_of_tearsSearch (h : ReturnsEndLines code) (torn : TearsSearch code)
    (recursive : Bool) : find? recursive (dropReturns code) = some binarySearch := by
  have front := find?_others_dropReturns h (List.subset_append_left _ (table.drop 3)) recursive
  have first := (front_find?_eq_none_iff recursive).mpr ⟨torn.1, torn.2.1⟩
  have here : binarySearch.applies recursive (dropReturns code) = true := by
    unfold applies
    rw [occursIn_binarySearch h, torn.2.2.2, Bool.or_true, Bool.and_true]
    rfl
  unfold find?
  rw [table_split, List.find?_append, List.find?_cons, front, first, here]
  rfl

theorem label_ne_of_find? {recursive : Bool} {signature : Signature}
    (found : find? recursive code = some signature)
    (misses : binarySearch.pattern.occursIn code = false) :
    signature.report.complexity ≠ binarySearch.report.complexity := by
  have labels : ∀ other ∈ others, other.report.complexity ≠ binarySearch.report.complexity := by
    decide
  have there := List.mem_of_find?_eq_some found
  have applies := List.find?_some found
  rw [table_split, List.mem_append, List.mem_cons] at there
  rcases there with there | rfl | there
  · exact labels signature (List.mem_append_left _ there)
  · simp [Signature.applies, misses] at applies
  · exact labels signature (List.mem_append_right _ there)

theorem find?_true (code : Text) :
    find? true code = (find? false code).or
      (if fibonacci.pattern.occursIn code then some fibonacci else none) := by
  have split (recursive : Bool) : find? recursive code =
      ((table.take 8).find? (·.applies recursive code)).or
        ([fibonacci].find? (·.applies recursive code)) := by
    rw [← List.find?_append]
    rfl
  have named : ∀ signature ∈ table.take 8, signature.requiresRecursion = false := by decide
  have same : (table.take 8).find? (·.applies true code) =
      (table.take 8).find? (·.applies false code) := by
    apply List.find?_congr
    intro signature inside
    simp [applies, named signature inside]
  rw [split true, split false, same, Option.or_assoc]
  congr 1
  have needs : fibonacci.requiresRecursion = true := rfl
  cases occurs : fibonacci.pattern.occursIn code <;> simp [applies, occurs, needs]

end Signature

end SnippetGauge
