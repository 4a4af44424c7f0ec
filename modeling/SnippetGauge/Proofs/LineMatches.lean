import Mathlib.Data.List.Infix
import SnippetGauge.Proofs.BlankRuns

set_option autoImplicit false

namespace SnippetGauge

open Text

namespace Text

variable {needle text : Text}

theorem occursIn_iff_infix : occursIn needle text = true ↔ needle <:+: text := by
  rw [occursIn_iff]
  constructor
  next => exact fun ⟨before, after, whole⟩ => ⟨before, after, whole.symm⟩
  next => exact fun ⟨before, after, whole⟩ => ⟨before, after, whole.symm⟩

theorem contains_eq_occursIn (c : Char) (text : Text) : text.contains c = occursIn [c] text := by
  rw [Bool.eq_iff_iff, occursIn_iff_infix, List.singleton_infix_iff, List.contains_iff_mem]

theorem infix_append_break (single : '\n' ∉ needle) {line rest : Text}
    (inside : needle <:+: line ++ '\n' :: rest) : needle <:+: line ∨ needle <:+: rest := by
  obtain ⟨before, after, whole⟩ := inside
  rcases List.append_eq_append_iff.mp whole with ⟨more, within, _⟩ | ⟨more, beyond, tail⟩
  next => exact .inl ⟨before, more, within.symm⟩
  next =>
    cases more with
    | nil => exact .inl ⟨before, [], by simpa using beyond⟩
    | cons c more =>
      obtain ⟨rfl, rfl⟩ := List.cons.inj tail
      -- What is sought holds no line feed, so it begins behind this one.
      rcases List.append_eq_append_iff.mp beyond with ⟨start, _, cut⟩ | ⟨start, _, cut⟩
      next => simp [cut] at single
      next =>
        cases start with
        | nil => simp [← show '\n' :: more = needle from cut] at single
        | cons d start =>
          obtain ⟨_, rfl⟩ := List.cons.inj cut
          exact .inr ⟨start, after, rfl⟩

theorem occursIn_append_break (single : '\n' ∉ needle) (line rest : Text) :
    occursIn needle (line ++ '\n' :: rest) = (occursIn needle line || occursIn needle rest) := by
  rw [Bool.eq_iff_iff, Bool.or_eq_true, occursIn_iff_infix, occursIn_iff_infix, occursIn_iff_infix]
  refine ⟨infix_append_break single, ?_⟩
  rintro (above | below)
  next => exact above.trans (List.prefix_append _ _).isInfix
  next => exact below.trans ((List.suffix_cons _ _).trans (List.suffix_append _ _)).isInfix

theorem occursIn_eq_any_lines (single : '\n' ∉ needle) (text : Text) :
    occursIn needle text = (lines text).any (occursIn needle) := by
  induction text using induct_lines with
  | last line whole => simp [lines_eq_singleton whole]
  | above line rest whole ih =>
    rw [occursIn_append_break single, ih, lines_append_break whole, List.any_cons]

theorem infix_iff_mem_lines (single : '\n' ∉ needle) :
    needle <:+: text ↔ ∃ line ∈ lines text, needle <:+: line := by
  rw [← occursIn_iff_infix, occursIn_eq_any_lines single, List.any_eq_true]
  exact exists_congr fun _ => and_congr_right fun _ => occursIn_iff_infix

end Text

namespace Margins

variable {margins : Margins} {first second needle : Text}

theorem ignoredBy_trim : margins.IgnoredBy trim := body_wide ▸ wide.ignoredBy_body.of_wide

/-- What is sought stands on one line, and no margin can be the start or the end of it. -/
def clearOf (margins : Margins) (needle : Text) : Bool :=
  !needle.contains '\n' && !needle.head?.any margins.lead && !needle.getLast?.any margins.trail

theorem ignoredBy_occursIn (clear : margins.clearOf needle = true) :
    margins.IgnoredBy (occursIn needle) := by
  simp only [clearOf, Bool.and_eq_true, Bool.not_eq_true'] at clear
  obtain ⟨⟨-, front⟩, back⟩ := clear
  constructor
  case front =>
    intro c line lead
    rw [Bool.eq_iff_iff, occursIn_iff_infix, occursIn_iff_infix, List.infix_cons_iff]
    refine ⟨?_, .inr⟩
    rintro (starts | inner)
    next =>
      cases needle with
      | nil => exact List.nil_infix
      | cons d needle =>
        obtain rfl : d = c := (List.cons_prefix_cons.mp starts).1
        simp [lead] at front
    next => exact inner
  case back =>
    intro c line trail
    rw [Bool.eq_iff_iff, occursIn_iff_infix, occursIn_iff_infix, List.infix_concat_iff]
    refine ⟨?_, .inr⟩
    rintro (ends | inner)
    next =>
      rcases List.suffix_concat_iff.mp ends with rfl | ⟨start, rfl, _⟩
      next => exact List.nil_infix
      next => simp [trail] at back
    next => exact inner

theorem SameBetween.occursIn (same : margins.SameBetween first second)
    (clear : margins.clearOf needle = true) : occursIn needle first = occursIn needle second := by
  have single : '\n' ∉ needle := by
    intro breaks
    simp [clearOf, breaks] at clear
  rw [occursIn_eq_any_lines single, occursIn_eq_any_lines single]
  exact (ignoredBy_occursIn clear).any_congr same

theorem squeeze_break_append {below : Text}
    (starts : ∀ c ∈ below.head?, isBlank c = true) (line : Text) :
    squeeze ('\n' :: (line ++ below)) = squeeze ('\n' :: (trim line ++ below)) := by
  obtain ⟨before, after, leads, trails, whole⟩ := Margins.wide.exists_margins line
  have inFront : isBlankText before = true := List.all_eq_true.mpr leads
  have behind : isBlankText after = true := List.all_eq_true.mpr trails
  have tail : squeeze (after ++ below) = squeeze below := by
    cases below with
    | nil => rw [List.append_nil, squeeze_of_blank behind, squeeze]
    | cons c rest => exact squeeze_append_of_blank rest behind (starts c rfl)
  rw [body_wide] at whole
  conv_lhs => rw [whole, List.append_assoc, squeeze_cons_append_of_blank _ inFront rfl]
  rw [List.append_assoc]
  exact squeeze_append_congr tail ('\n' :: trim line)

theorem squeeze_break_unlines {parts others : List Text}
    (same : parts.map margins.body = others.map margins.body) :
    squeeze ('\n' :: unlines parts) = squeeze ('\n' :: unlines others) := by
  induction parts, others, same using induct_bodies with
  | nil => rfl
  | cons line other later below here rest ih =>
    have trimmed : trim line = trim other := ignoredBy_trim.congr here
    have ended : later = [] ↔ below = [] := by
      rw [← List.map_eq_nil_iff, rest, List.map_eq_nil_iff]
    by_cases last : later = []
    next =>
      have alone (line : Text) : squeeze ('\n' :: line) = squeeze ('\n' :: trim line) := by
        have none : ∀ c ∈ ([] : Text).head?, isBlank c = true := by simp
        simpa using squeeze_break_append none line
      rw [last, ended.mp last, unlines, unlines, alone line, trimmed, ← alone other]
    next =>
      have breaks (rest : Text) : ∀ c ∈ ('\n' :: rest).head?, isBlank c = true := by
        simp [show isBlank '\n' = true from rfl]
      rw [unlines_cons line last, unlines_cons other (mt ended.mpr last),
        squeeze_break_append (breaks _) line, squeeze_break_append (breaks _) other, trimmed]
      exact squeeze_append_congr ih ('\n' :: trim other)

theorem SameBetween.squeeze_break (same : margins.SameBetween first second) :
    squeeze ('\n' :: first) = squeeze ('\n' :: second) := by
  simpa only [unlines_lines] using squeeze_break_unlines same

end Margins

namespace Pattern

variable {margins : Margins} {first second : Text} {p : Pattern}

theorem occursIn_congr (blind : BlindToGaps (p.andThen matched)) (declined : p.declines '\n' = true)
    (same : margins.SameBetween first second) : p.occursIn first = p.occursIn second := by
  rw [← occursIn_of_declines first declined, ← occursIn_of_declines second declined,
    ← occursIn_squeeze blind, same.squeeze_break, occursIn_squeeze blind]

end Pattern

namespace Lint

variable {margins : Margins} {first second : Text}

theorem mentions_congr {needle : String} (clear : margins.clearOf needle.toList = true)
    (same : margins.SameBetween first second) : mentions needle first = mentions needle second :=
  same.occursIn clear

end Lint

end SnippetGauge
