import Mathlib.Data.List.Basic
import SnippetGauge.Complexity.Signature
import SnippetGauge.Proofs.Returns

set_option autoImplicit false

namespace SnippetGauge

open Text

namespace Pattern

variable {text : Text}

def avoids (c : Char) : Pattern → Bool
  | nothing => true
  | one accepts => !accepts c
  | run accepts => !accepts c
  | seq first second => first.avoids c && second.avoids c
  | alt left right => left.avoids c && right.avoids c

def avoidsBreaks (p : Pattern) : Bool := p.avoids '\r' && p.avoids '\n'

theorem runRests_suffix {accepts : Char → Bool} {rest : Text}
    (inside : rest ∈ runRests accepts text) : rest <:+ text := by
  induction text with
  | nil => simp_all [runRests]
  | cons c text ih =>
    simp only [runRests] at inside
    split at inside
    · rw [List.mem_append, List.mem_singleton] at inside
      rcases inside with inside | rfl
      · exact (ih inside).trans (List.suffix_cons c text)
      · exact List.suffix_refl _
    · rw [List.mem_singleton] at inside
      exact inside ▸ List.suffix_refl _

theorem rests_suffix {p : Pattern} {rest : Text} (inside : rest ∈ p.rests text) :
    rest <:+ text := by
  induction p generalizing text rest with
  | nothing =>
    rw [rests, List.mem_singleton] at inside
    exact inside ▸ List.suffix_refl _
  | one accepts =>
    cases text with
    | nil => simp [rests] at inside
    | cons c text =>
      simp only [rests] at inside
      split at inside
      · rw [List.mem_singleton] at inside
        exact inside ▸ List.suffix_cons c text
      · simp at inside
  | run accepts => exact runRests_suffix inside
  | seq first second ihFirst ihSecond =>
    rw [rests, List.mem_flatMap] at inside
    obtain ⟨middle, there, inside⟩ := inside
    exact (ihSecond inside).trans (ihFirst there)
  | alt left right ihLeft ihRight =>
    rw [rests, List.mem_append] at inside
    exact inside.elim ihLeft ihRight

theorem runRests_dropReturns {accepts : Char → Bool} (h : ReturnsEndLines text)
    (returns : accepts '\r' = false) (breaks : accepts '\n' = false) :
    runRests accepts (dropReturns text) = (runRests accepts text).map dropReturns := by
  induction text, h using ReturnsEndLines.induct_ends with
  | nil => rfl
  | last => simp [runRests, returns]
  | lineEnd rest => simp [runRests, returns, breaks]
  | cons c rest h plain ih =>
    rw [dropReturns_cons plain]
    simp only [runRests]
    split
    · simp [ih, dropReturns_cons plain]
    · simp [dropReturns_cons plain]

theorem rests_dropReturns {p : Pattern} (within : p.avoidsBreaks = true)
    (h : ReturnsEndLines text) : p.rests (dropReturns text) = (p.rests text).map dropReturns := by
  unfold avoidsBreaks at within
  induction p generalizing text with
  | nothing => rfl
  | one accepts =>
    simp only [avoids, Bool.and_eq_true, Bool.not_eq_true'] at within
    cases text, h using ReturnsEndLines.induct_ends with
    | nil => rfl
    | last => simp [rests, within.1]
    | lineEnd rest => simp [rests, within.1, within.2]
    | cons c rest _ plain =>
      rw [dropReturns_cons plain]
      simp only [rests]
      split <;> rfl
  | run accepts =>
    simp only [avoids, Bool.and_eq_true, Bool.not_eq_true'] at within
    exact runRests_dropReturns h within.1 within.2
  | seq first second ihFirst ihSecond =>
    simp only [avoids, Bool.and_eq_true] at within ihFirst ihSecond
    rw [rests, rests, ihFirst ⟨within.1.1, within.2.1⟩ h, List.flatMap_map, List.map_flatMap]
    apply List.flatMap_congr
    intro rest inside
    exact ihSecond ⟨within.1.2, within.2.2⟩ (h.part (rests_suffix inside).isInfix)
  | alt left right ihLeft ihRight =>
    simp only [avoids, Bool.and_eq_true] at within ihLeft ihRight
    rw [rests, rests, ihLeft ⟨within.1.1, within.2.1⟩ h, ihRight ⟨within.1.2, within.2.2⟩ h,
      List.map_append]

theorem startsText_dropReturns {p : Pattern} (within : p.avoidsBreaks = true)
    (h : ReturnsEndLines text) : p.startsText (dropReturns text) = p.startsText text := by
  unfold startsText
  rw [rests_dropReturns within h, List.isEmpty_map]

theorem occursIn_of_startsText {p : Pattern} (starts : p.startsText text = true) :
    p.occursIn text = true := by
  cases text with
  | nil => exact starts
  | cons c rest => simp [occursIn, starts]

theorem occursIn_dropReturns {p : Pattern} (within : p.avoidsBreaks = true)
    (h : ReturnsEndLines text) : p.occursIn (dropReturns text) = p.occursIn text := by
  induction text with
  | nil => rfl
  | cons c rest ih =>
    have here := startsText_dropReturns within h
    by_cases dropped : c = '\r'
    · subst dropped
      -- A match at the carriage return is one at the line feed.
      rw [dropReturns_return] at here ⊢
      rw [ih h.tail, occursIn, ← here, startsText_dropReturns within h.tail]
      cases starts : p.startsText rest with
      | true => exact occursIn_of_startsText starts
      | false => rfl
    · rw [dropReturns_cons dropped] at here ⊢
      rw [occursIn, occursIn, here, ih h.tail]

theorem startsText_seq (first second : Pattern) :
    (seq first second).startsText text = (first.rests text).any second.startsText := by
  unfold startsText
  rw [rests, Bool.eq_iff_iff]
  simp [List.flatMap_eq_nil_iff]

end Pattern

end SnippetGauge
