import SnippetGauge.Proofs.DeclarationHeads
import SnippetGauge.Proofs.ReturnWords

set_option autoImplicit false

namespace SnippetGauge.Text

theorem ReturnsEndLines.dropWhile {text : Text} (h : ReturnsEndLines text)
    (accepts : Char → Bool) : ReturnsEndLines (text.dropWhile accepts) :=
  h.part (List.dropWhile_suffix accepts).isInfix

theorem dropPrefix?_dropReturns {text : Text} (h : ReturnsEndLines text) (start : Text)
    (plain : '\r' ∉ start) (single : '\n' ∉ start) :
    dropPrefix? start (dropReturns text) = (dropPrefix? start text).map dropReturns := by
  induction start generalizing text with
  | nil => simp [dropPrefix?]
  | cons p start ih =>
    simp only [List.mem_cons, not_or] at plain single
    cases text, h using ReturnsEndLines.induct_ends with
    | nil => rfl
    | last => simp [dropPrefix?, Ne.symm plain.1]
    | lineEnd rest => simp [dropPrefix?, Ne.symm plain.1, Ne.symm single.1]
    | cons c rest h other =>
      rw [dropReturns_cons other]
      simp only [dropPrefix?]
      split
      · exact ih h.tail plain.2 single.2
      · rfl

end SnippetGauge.Text

namespace SnippetGauge.TypedHead

open Text

variable {text : Text}

theorem afterTypeWord?_dropReturns (h : ReturnsEndLines text) :
    afterTypeWord? (dropReturns text) = (afterTypeWord? text).map dropReturns := by
  cases text, h using ReturnsEndLines.induct_ends with
  | nil => rfl
  | last => rfl
  | lineEnd rest => rfl
  | cons c rest h plain =>
    rw [dropReturns_cons plain]
    simp only [afterTypeWord?]
    split
    · rw [dropWhile_dropReturns h.tail (.inr rfl)]
      rfl
    · split
      · rw [dropWhile_dropReturns h.tail (.inr rfl)]
        have inner := h.tail.dropWhile isAngleChar
        split
        next after closed =>
          obtain ⟨later, same, rfl⟩ := exists_of_dropReturns_eq_cons inner closed (by decide)
          simp [same]
        next other =>
          split
          next after same =>
            rw [same] at other
            exact absurd (dropReturns_cons (by decide) after) (other _)
          next => rfl
      · rfl

theorem afterSeparators?_dropReturns (h : ReturnsEndLines text) :
    afterSeparators? (dropReturns text) = (afterSeparators? text).map dropReturns := by
  cases text, h using ReturnsEndLines.induct_ends with
  | nil => rfl
  | last => rfl
  | lineEnd rest => rfl
  | cons c rest h plain =>
    rw [dropReturns_cons plain]
    simp only [afterSeparators?]
    split
    · rw [dropWhile_dropReturns h.tail (.inr rfl)]
      rfl
    · rfl

theorem afterTypePart?_dropReturns (h : ReturnsEndLines text) :
    afterTypePart? (dropReturns text) = (afterTypePart? text).map dropReturns := by
  unfold afterTypePart?
  rw [afterTypeWord?_dropReturns h]
  cases found : afterTypeWord? text with
  | none => rfl
  | some rest =>
    exact afterSeparators?_dropReturns (h.part (ReadsOver.afterTypeWord? found).suffix.isInfix)

theorem nameAt?_dropReturns (h : ReturnsEndLines text) :
    nameAt? (dropReturns text) =
      (nameAt? text).map fun read => (read.1, dropReturns read.2) := by
  have gap : ((dropReturns text).dropWhile isWordChar).dropWhile isGap =
      dropReturns ((text.dropWhile isWordChar).dropWhile isGap) := by
    rw [dropWhile_dropReturns h (.inr rfl),
      dropWhile_dropReturns (h.dropWhile isWordChar) (.inr rfl)]
  apply Option.ext
  intro read
  rw [Option.map_eq_some_iff]
  constructor
  · intro named
    obtain ⟨word, filled, opens⟩ := nameAt?_eq_some_iff.mp named
    rw [gap] at opens
    obtain ⟨later, same, found⟩ := exists_of_dropReturns_eq_cons
      ((h.dropWhile isWordChar).dropWhile isGap) opens (by decide)
    rw [leadingWord_dropReturns h] at word
    exact ⟨(read.1, later), nameAt?_eq_some_iff.mpr ⟨word, filled, same⟩, by rw [found]⟩
  · rintro ⟨original, named, rfl⟩
    obtain ⟨word, filled, opens⟩ := nameAt?_eq_some_iff.mp named
    refine nameAt?_eq_some_iff.mpr ⟨?_, filled, ?_⟩
    · rw [leadingWord_dropReturns h, word]
    · rw [gap, opens]
      exact dropReturns_cons (by decide) original.2

theorem headName?_dropReturns {line : Text} (h : ReturnsEndLines line) :
    headName? (dropReturns line) = headName? line := by
  have places {text : Text} (h : ReturnsEndLines text) :
      ((namePlaces (dropReturns text)).findSome? nameAt?).map (·.1) =
        ((namePlaces text).findSome? nameAt?).map (·.1) := by
    fun_induction namePlaces text with
    | case1 text missing =>
      have again : afterTypePart? (dropReturns text) = none := by
        rw [afterTypePart?_dropReturns h, missing]
        rfl
      rw [namePlaces_of_none again]
    | case2 text rest found ih =>
      have inner := h.part (ReadsOver.afterTypePart? found).suffix.isInfix
      have again : afterTypePart? (dropReturns text) = some (dropReturns rest) := by
        rw [afterTypePart?_dropReturns h, found]
        rfl
      rw [namePlaces_of_some again, List.findSome?_cons, List.findSome?_cons,
        nameAt?_dropReturns inner]
      cases nameAt? rest with
      | none => exact ih inner
      | some read => rfl
  unfold headName?
  rw [dropWhile_dropReturns h (.inr rfl), places (h.dropWhile isGap)]

theorem afterParameters?_dropReturns (h : ReturnsEndLines text) :
    afterParameters? (dropReturns text) = (afterParameters? text).map dropReturns := by
  have same : (dropReturns text).dropWhile isParameterChar =
      dropReturns (text.dropWhile isParameterChar) := dropWhile_dropReturns_of_pos rfl text
  apply Option.ext
  intro after
  rw [afterParameters?_eq_some_iff, same, Option.map_eq_some_iff]
  constructor
  · intro closed
    obtain ⟨later, found, rfl⟩ :=
      exists_of_dropReturns_eq_cons (h.dropWhile isParameterChar) closed (by decide)
    exact ⟨later, afterParameters?_eq_some_iff.mpr found, rfl⟩
  · rintro ⟨later, found, rfl⟩
    rw [afterParameters?_eq_some_iff.mp found]
    exact dropReturns_cons (by decide) later

theorem afterConst_dropReturns (h : ReturnsEndLines text) :
    afterConst (dropReturns text) = dropReturns (afterConst text) := by
  have inner := h.dropWhile isGap
  have word := dropPrefix?_dropReturns inner "const".toList (by decide) (by decide)
  unfold afterConst
  rw [dropWhile_dropReturns h (.inr rfl)]
  simp only [word]
  cases found : dropPrefix? "const".toList (text.dropWhile isGap) with
  | none => rfl
  | some after =>
    have suffix : after <:+ text.dropWhile isGap := by
      rw [dropPrefix?_eq_some_iff.mp found]
      exact List.suffix_append _ after
    exact dropWhile_dropReturns (inner.part suffix.isInfix) (.inr rfl)

theorem lastLine_dropReturns (text : Text) :
    lastLine (dropReturns text) = dropReturns (lastLine text) := by
  unfold lastLine
  rw [← dropReturns_reverse, takeWhile_dropReturns_of_pos rfl, dropReturns_reverse]

theorem afterThrown?_dropReturns (text : Text) :
    afterThrown? (dropReturns text) = (afterThrown? text).map dropReturns := by
  have stops := List.head?_dropWhile_not isThrownChar text
  have same : (dropReturns text).dropWhile isThrownChar =
      dropReturns (text.dropWhile isThrownChar) := dropWhile_dropReturns_of_pos rfl text
  cases tail : text.dropWhile isThrownChar with
  | nil =>
    rw [tail] at same
    rw [afterThrown?_of_nil tail, afterThrown?_of_nil same]
    rfl
  | cons c rest =>
    have plain : c ≠ '\r' := by
      rintro rfl
      simp [tail, isThrownChar] at stops
    rw [tail, dropReturns_cons plain] at same
    by_cases brace : c = '\x7b'
    · subst brace
      rw [afterThrown?_of_brace tail, afterThrown?_of_brace same]
      rfl
    · rw [afterThrown?_of_statement tail brace, afterThrown?_of_statement same brace,
        takeWhile_dropReturns_of_pos rfl, lastLine_dropReturns, contains_dropReturns (by decide)]
      split
      · simp [dropReturns_append, dropReturns_cons plain]
      · rfl

def afterReturn? : Text → Option Text
  | '\r' :: rest => some rest
  | _ => none

theorem afterOpening?_dropReturns (h : ReturnsEndLines text) :
    afterOpening? (dropReturns text) =
      ((afterOpening? text).or (afterReturn? text)).map dropReturns := by
  cases text, h using ReturnsEndLines.induct_ends with
  | nil => rfl
  | last => rfl
  | lineEnd rest => rfl
  | cons c rest _ plain =>
    have kept : afterReturn? (c :: rest) = none := by
      unfold afterReturn?
      split
      next found => exact absurd (List.cons.inj found).1 plain
      next => rfl
    rw [dropReturns_cons plain, kept, Option.or_none]
    by_cases brace : c = '\x7b'
    · subst brace
      rfl
    · by_cases ends : c = '\n'
      · subst ends
        rfl
      · simp [afterOpening?, brace, ends]

theorem afterHeadEnd?_dropReturns (h : ReturnsEndLines text) :
    afterHeadEnd? (dropReturns text) =
      ((afterHeadEnd? text).or (afterReturn? (afterConst text))).map dropReturns := by
  have inner : ReturnsEndLines (afterConst text) := h.part (afterConst_suffix text).isInfix
  have word := dropPrefix?_dropReturns inner "throws".toList (by decide) (by decide)
  unfold afterHeadEnd?
  rw [afterConst_dropReturns h, word]
  cases found : dropPrefix? "throws".toList (afterConst text) with
  | none => exact afterOpening?_dropReturns inner
  | some after =>
    have kept : afterReturn? (afterConst text) = none := by
      rw [dropPrefix?_eq_some_iff.mp found]
      rfl
    simp [kept, afterThrown?_dropReturns]

end SnippetGauge.TypedHead
