import SnippetGauge.Proofs.LineMatches
import SnippetGauge.Proofs.TrackedLines

set_option autoImplicit false

namespace SnippetGauge

open Text

namespace Text

def startTrimmed : List Text → List Text
  | [] => [[]]
  | line :: later => if isBlankText line then startTrimmed later else trimStart line :: later

def endTrimmed : List Text → List Text
  | [] => [[]]
  | line :: later =>
    if later.all isBlankText then [trimEnd line] else line :: endTrimmed later

theorem lines_trimStart (text : Text) : lines (trimStart text) = startTrimmed (lines text) := by
  induction text with
  | nil => rfl
  | cons c rest ih =>
    by_cases breaks : c = '\n'
    next =>
      subst breaks
      rw [lines_break]
      exact ih
    next =>
      obtain ⟨line, later, found⟩ := exists_lines_eq rest
      have whole := lines_cons_of_ne breaks found
      rw [whole, startTrimmed]
      by_cases blank : isBlank c = true
      next =>
        have same : isBlankText (c :: line) = isBlankText line := by simp [isBlankText, blank]
        rw [trimStart_cons_of_isBlank rest blank, ih, found, startTrimmed, same,
          trimStart_cons_of_isBlank line blank]
      next =>
        have filled : isBlankText (c :: line) = false := by simp [isBlankText, blank]
        rw [trimStart_cons_of_filled _ blank, trimStart_cons_of_filled _ blank, whole, filled,
          if_neg Bool.false_ne_true]

theorem trimEnd_append (text more : Text) :
    trimEnd (text ++ more) = if isBlankText more then trimEnd text else text ++ trimEnd more := by
  have empty : (more.reverse.dropWhile isBlank).isEmpty = isBlankText more := by
    rw [Bool.eq_iff_iff, List.isEmpty_iff, ← trimEnd_eq_nil_iff, trimEnd, List.reverse_eq_nil_iff]
  rw [trimEnd, List.reverse_append, List.dropWhile_append, empty]
  split
  next => rfl
  next => rw [List.reverse_append, List.reverse_reverse, trimEnd]

theorem all_isBlankText_lines (text : Text) : (lines text).all isBlankText = isBlankText text := by
  have blank : isBlank '\n' = true := rfl
  induction text using induct_lines with
  | last line single => simp [lines_eq_singleton single]
  | above line rest single ih =>
    rw [lines_append_break single, List.all_cons, ih]
    simp [isBlankText, blank]

theorem lines_trimEnd (text : Text) : lines (trimEnd text) = endTrimmed (lines text) := by
  have trimmed {line : Text} (single : '\n' ∉ line) : lines (trimEnd line) = [trimEnd line] := by
    obtain ⟨white, _, same⟩ := exists_trimEnd line
    apply lines_eq_singleton
    intro breaks
    rw [same] at single
    exact single (List.mem_append_left _ breaks)
  induction text using induct_lines with
  | last line single =>
    rw [trimmed single, lines_eq_singleton single, endTrimmed, List.all_nil, if_pos rfl]
  | above line rest single ih =>
    have white : isBlankText ('\n' :: rest) = isBlankText rest := rfl
    rw [lines_append_break single, endTrimmed, all_isBlankText_lines, trimEnd_append, white]
    cases blank : isBlankText rest with
    | true => exact trimmed single
    | false =>
      have kept : trimEnd ('\n' :: rest) = '\n' :: trimEnd rest := by
        have split := trimEnd_append ['\n'] rest
        rwa [blank] at split
      rw [if_neg Bool.false_ne_true, if_neg Bool.false_ne_true, kept, lines_append_break single, ih]

end Text

theorem sparesBlanks_trimStart : SparesBlanks trimStart where
  front _ line blank := .inl (trimStart_cons_of_isBlank line blank)
  back c line blank := by
    unfold trimStart
    rw [List.dropWhile_append]
    split
    next empty => exact .inl (by simp [blank, List.isEmpty_iff.mp empty])
    next => exact .inr rfl

theorem trimEnd_concat_of_isBlank {c : Char} (blank : isBlank c = true) (line : Text) :
    trimEnd (line ++ [c]) = trimEnd line :=
  List.rdropWhile_concat_pos _ _ _ blank

theorem sparesBlanks_trimEnd : SparesBlanks trimEnd where
  front c line blank := by
    have split := trimEnd_append [c] line
    cases white : isBlankText line with
    | true =>
      have none : trimEnd [c] = [] := trimEnd_eq_nil_iff.mpr (by simp [isBlankText, blank])
      rw [white, if_pos rfl, none] at split
      exact .inl (split.trans (trimEnd_eq_nil_iff.mpr white).symm)
    | false =>
      rw [white, if_neg Bool.false_ne_true] at split
      exact .inr split
  back _ line blank := .inl (trimEnd_concat_of_isBlank blank line)

theorem wide_ignoredBy_isBlankText : Margins.wide.IgnoredBy isBlankText where
  front c line blank := by
    have white : isBlank c = true := blank
    simp [isBlankText, white]
  back c line blank := by
    have white : isBlank c = true := blank
    simp [isBlankText, white]

namespace Margins

variable {margins : Margins} {first second : Text}

theorem map_body_startTrimmed {parts others : List Text}
    (same : parts.map margins.body = others.map margins.body) :
    (startTrimmed parts).map margins.body = (startTrimmed others).map margins.body := by
  induction parts, others, same using induct_bodies with
  | nil => rfl
  | cons line other later below here rest ih =>
    have blank : isBlankText line = isBlankText other :=
      wide_ignoredBy_isBlankText.of_wide.congr here
    have started := (sparesBlanks_trimStart.ignoredBy margins).congr here
    rw [startTrimmed, startTrimmed, blank]
    split
    next => exact ih
    next => exact congrArg₂ List.cons started rest

theorem map_body_endTrimmed {parts others : List Text}
    (same : parts.map margins.body = others.map margins.body) :
    (endTrimmed parts).map margins.body = (endTrimmed others).map margins.body := by
  induction parts, others, same using induct_bodies with
  | nil => rfl
  | cons line other later below here rest ih =>
    have blank : margins.IgnoredBy isBlankText := wide_ignoredBy_isBlankText.of_wide
    have white : later.all isBlankText = below.all isBlankText := by
      simpa only [List.all_map, Function.id_comp] using congrArg (·.all id) (blank.map_congr rest)
    have ended := (sparesBlanks_trimEnd.ignoredBy margins).congr here
    rw [endTrimmed, endTrimmed, white]
    split
    next => exact congrArg₂ List.cons ended rfl
    next => exact congrArg₂ List.cons here ih

theorem SameBetween.trim (same : margins.SameBetween first second) :
    margins.SameBetween (trim first) (trim second) := by
  unfold SameBetween
  rw [Text.trim, Text.trim, lines_trimEnd, lines_trimEnd, lines_trimStart, lines_trimStart]
  exact map_body_endTrimmed (map_body_startTrimmed same)

end Margins

end SnippetGauge
