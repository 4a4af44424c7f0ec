import Mathlib.Data.List.Forall2
import SnippetGauge.Comment

set_option autoImplicit false

namespace SnippetGauge.Text

theorem lines_break (rest : Text) : lines ('\n' :: rest) = [] :: lines rest := by
  simp [lines]

theorem exists_lines_eq (text : Text) : ∃ line later, lines text = line :: later :=
  List.exists_cons_of_ne_nil (lines_ne_nil text)

theorem lines_cons_of_ne {c : Char} {rest line : Text} {later : List Text} (other : c ≠ '\n')
    (h : lines rest = line :: later) : lines (c :: rest) = (c :: line) :: later := by
  simp [lines, other, h]

theorem lineCount_eq_count (text : Text) : lineCount text = text.count '\n' + 1 := by
  unfold lineCount
  induction text with
  | nil => rfl
  | cons c rest ih =>
    by_cases same : c = '\n'
    · subst same
      rw [lines_break, List.length_cons, List.count_cons_self, ih]
    · obtain ⟨line, later, h⟩ := exists_lines_eq rest
      rw [lines_cons_of_ne same h, List.count_cons_of_ne same, ← ih, h]
      simp

theorem break_notMem_of_mem_lines {text line : Text} (inside : line ∈ lines text) :
    '\n' ∉ line := by
  induction text generalizing line with
  | nil => simp_all [lines]
  | cons c rest ih =>
    by_cases same : c = '\n'
    · subst same
      rw [lines_break, List.mem_cons] at inside
      rcases inside with rfl | inside
      · simp
      · exact ih inside
    · obtain ⟨first, later, h⟩ := exists_lines_eq rest
      rw [lines_cons_of_ne same h, List.mem_cons] at inside
      rcases inside with rfl | inside
      · have tail : '\n' ∉ first := ih (by simp [h])
        simp [tail, Ne.symm same]
      · exact ih (by simp [h, inside])

theorem prefix_of_lines_eq {text line : Text} {later : List Text}
    (h : lines text = line :: later) : line <+: text := by
  rw [← unlines_lines text, h]
  cases later with
  | nil => exact List.prefix_rfl
  | cons => exact List.prefix_append _ _

theorem infix_of_mem_lines {text line : Text} (inside : line ∈ lines text) : line <:+: text := by
  induction text with
  | nil => simp_all [lines]
  | cons c rest ih =>
    obtain ⟨first, later, h⟩ := exists_lines_eq rest
    by_cases same : c = '\n'
    · subst same
      rw [lines_break, List.mem_cons] at inside
      rcases inside with rfl | inside
      · exact List.nil_infix
      · exact List.infix_cons (ih inside)
    · have whole := lines_cons_of_ne same h
      rw [whole, List.mem_cons] at inside
      rcases inside with rfl | inside
      · exact (prefix_of_lines_eq whole).isInfix
      · exact List.infix_cons (ih (by simp [h, inside]))

theorem lines_append (above below : Text) :
    lines (above ++ '\n' :: below) = lines above ++ lines below := by
  induction above with
  | nil => exact lines_break below
  | cons c rest ih =>
    obtain ⟨line, later, h⟩ := exists_lines_eq rest
    by_cases same : c = '\n'
    · subst same
      rw [List.cons_append, lines_break, lines_break, ih, List.cons_append]
    · rw [h, List.cons_append] at ih
      rw [List.cons_append, lines_cons_of_ne same ih, lines_cons_of_ne same h, List.cons_append]

theorem lines_eq_singleton {line : Text} (whole : '\n' ∉ line) : lines line = [line] := by
  induction line with
  | nil => rfl
  | cons c line ih =>
    simp only [List.mem_cons, not_or] at whole
    exact lines_cons_of_ne (Ne.symm whole.1) (ih whole.2)

theorem lines_append_break {line : Text} (whole : '\n' ∉ line) (rest : Text) :
    lines (line ++ '\n' :: rest) = line :: lines rest := by
  rw [lines_append, lines_eq_singleton whole, List.singleton_append]

@[elab_as_elim]
theorem induct_lines {motive : Text → Prop} (last : ∀ line, '\n' ∉ line → motive line)
    (above : ∀ line rest, '\n' ∉ line → motive rest → motive (line ++ '\n' :: rest))
    (text : Text) : motive text := by
  have whole (parts : List Text) (some : parts ≠ []) (single : ∀ line ∈ parts, '\n' ∉ line) :
      motive (unlines parts) := by
    induction parts with
    | nil => contradiction
    | cons line later ih =>
      have plain : '\n' ∉ line := single line (by simp)
      by_cases ended : later = []
      next =>
        subst ended
        exact last line plain
      next =>
        rw [unlines_cons line ended]
        exact above line _ plain (ih ended fun other inside => single other (by simp [inside]))
  have joined := whole (lines text) (lines_ne_nil text) fun _ => break_notMem_of_mem_lines
  rwa [unlines_lines] at joined

theorem unlines_append {first second : List Text} (some : first ≠ []) (other : second ≠ []) :
    unlines (first ++ second) = unlines first ++ '\n' :: unlines second := by
  induction first with
  | nil => exact absurd rfl some
  | cons line later ih =>
    by_cases last : later = []
    · subst last
      exact unlines_cons line other
    · rw [List.cons_append, unlines_cons line (by simp [last]), ih last, unlines_cons line last]
      simp

theorem lines_unlines {parts : List Text} (some : parts ≠ [])
    (whole : ∀ line ∈ parts, '\n' ∉ line) : lines (unlines parts) = parts := by
  induction parts with
  | nil => exact absurd rfl some
  | cons line later ih =>
    by_cases last : later = []
    · subst last
      exact lines_eq_singleton (whole line (by simp))
    · rw [unlines_cons line last, lines_append_break (whole line (by simp)),
        ih last fun other inside => whole other (by simp [inside])]

theorem unlines_cons_cons (c : Char) (line : Text) (later : List Text) :
    unlines ((c :: line) :: later) = c :: unlines (line :: later) := by
  cases later <;> rfl

section

variable (change : Text → Text)

theorem mapLines_append (above below : Text) :
    mapLines change (above ++ '\n' :: below) =
      mapLines change above ++ '\n' :: mapLines change below := by
  unfold mapLines
  rw [lines_append, List.map_append, unlines_append] <;> simp [lines_ne_nil]

theorem mapLines_of_single {line : Text} (single : '\n' ∉ line) :
    mapLines change line = change line := by
  rw [mapLines, lines_eq_singleton single]
  rfl

theorem mapLines_append_break {line : Text} (whole : '\n' ∉ line) (rest : Text) :
    mapLines change (line ++ '\n' :: rest) = change line ++ '\n' :: mapLines change rest := by
  rw [mapLines_append, mapLines, lines_eq_singleton whole]
  rfl

theorem mapLines_break (rest : Text) :
    mapLines change ('\n' :: rest) = change [] ++ '\n' :: mapLines change rest :=
  mapLines_append_break change List.not_mem_nil rest

end

theorem lines_mapLines {change : Text → Text} {source : Text}
    (whole : ∀ line ∈ lines source, '\n' ∉ change line) :
    lines (mapLines change source) = (lines source).map change := by
  unfold mapLines
  apply lines_unlines
  · simp [lines_ne_nil]
  · intro line inside
    obtain ⟨original, member, rfl⟩ := List.mem_map.mp inside
    exact whole original member

theorem lines_mapLines_of_sublist {change : Text → Text}
    (shorter : ∀ line, (change line).Sublist line) (source : Text) :
    lines (mapLines change source) = (lines source).map change :=
  lines_mapLines fun line inside found =>
    break_notMem_of_mem_lines inside ((shorter line).subset found)

end SnippetGauge.Text
