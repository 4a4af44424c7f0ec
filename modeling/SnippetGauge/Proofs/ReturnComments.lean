import SnippetGauge.Proofs.BlockComments
import SnippetGauge.Proofs.Returns

set_option autoImplicit false

namespace SnippetGauge

open Text

namespace Text

theorem lines_dropReturns (text : Text) :
    lines (dropReturns text) = (lines text).map dropReturns := by
  induction text with
  | nil => rfl
  | cons c rest ih =>
    obtain ⟨line, later, h⟩ := exists_lines_eq rest
    by_cases same : c = '\n'
    · subst same
      rw [dropReturns_break, lines_break, lines_break, ih]
      rfl
    · by_cases dropped : c = '\r'
      · subst dropped
        rw [dropReturns_return, ih, lines_cons_of_ne same h, h]
        rfl
      · rw [h] at ih
        rw [dropReturns_cons dropped, lines_cons_of_ne same h, lines_cons_of_ne same ih]
        simp [dropReturns_cons dropped]

theorem dropReturns_unlines (parts : List Text) :
    dropReturns (unlines parts) = unlines (parts.map dropReturns) := by
  induction parts with
  | nil => rfl
  | cons line later ih =>
    by_cases last : later = []
    · subst last
      rfl
    · rw [unlines_cons line last, dropReturns_append, dropReturns_break, ih, List.map_cons,
        unlines_cons _ (by simpa using last)]

namespace ReturnsEndLines

theorem of_mem_lines {text line : Text} (h : ReturnsEndLines text) (inside : line ∈ lines text) :
    ReturnsEndLines line :=
  h.part (infix_of_mem_lines inside)

theorem of_lines {text : Text} (h : ∀ line ∈ lines text, ReturnsEndLines line) :
    ReturnsEndLines text := by
  induction text with
  | nil => exact .nil
  | cons c rest ih =>
    obtain ⟨line, later, found⟩ := exists_lines_eq rest
    by_cases same : c = '\n'
    · subst same
      rw [lines_break] at h
      exact (ih fun other inside => h other (by simp [inside])).cons (by simp)
    · rw [lines_cons_of_ne same found] at h
      have whole : ReturnsEndLines rest := by
        apply ih
        intro other inside
        rw [found, List.mem_cons] at inside
        rcases inside with rfl | inside
        · exact (h (c :: other) (by simp)).tail
        · exact h other (by simp [inside])
      refine whole.cons fun dropped d more starts => ?_
      by_contra other
      obtain ⟨first, others, further⟩ := exists_lines_eq more
      rw [starts, lines_cons_of_ne other further, List.cons.injEq] at found
      have first := h (c :: line) (by simp)
      rw [dropped, ← found.1] at first
      exact other first.break_of_return

theorem mapLines {change : Text → Text} {source : Text} (h : ReturnsEndLines source)
    (shorter : ∀ line, change line <+: line) : ReturnsEndLines (mapLines change source) := by
  apply of_lines
  intro line inside
  have whole (line : Text) (inside : line ∈ lines source) : '\n' ∉ change line :=
    fun found => break_notMem_of_mem_lines inside ((shorter line).subset found)
  rw [lines_mapLines whole] at inside
  obtain ⟨original, member, rfl⟩ := List.mem_map.mp inside
  exact (h.of_mem_lines member).part (shorter original).isInfix

end ReturnsEndLines

end Text

theorem mapLines_dropReturns {change : Text → Text} {source : Text} (h : ReturnsEndLines source)
    (same : ∀ line, ReturnsEndLines line → change (dropReturns line) = dropReturns (change line)) :
    mapLines change (dropReturns source) = dropReturns (mapLines change source) := by
  unfold mapLines
  rw [lines_dropReturns, dropReturns_unlines, List.map_map, List.map_map]
  congr 1
  apply List.map_congr_left
  intro line inside
  exact same line (h.of_mem_lines inside)

theorem closesBlock_dropReturns {text : Text} (h : ReturnsEndLines text) :
    closesBlock (dropReturns text) = closesBlock text := by
  fun_induction closesBlock text with
  | case1 => rfl
  | case2 rest => rfl
  | case3 c rest other ih =>
    by_cases dropped : c = '\r'
    · subst dropped
      exact ih h.tail
    · rw [dropReturns_cons dropped, closesBlock, ih h.tail]
      intro more star found
      obtain ⟨later, same, _⟩ := exists_of_dropReturns_eq_cons h.tail found (by decide)
      exact other later star same

theorem eraseBlocksFrom_dropReturns {text : Text} (h : ReturnsEndLines text) (inside : Bool) :
    eraseBlocksFrom inside (dropReturns text) = dropReturns (eraseBlocksFrom inside text) := by
  fun_induction eraseBlocksFrom inside text with
  | case1 => simp [eraseBlocksFrom]
  | case2 rest ih => exact ih h.tail.tail
  | case3 rest ih =>
    rw [dropReturns_break, eraseBlocksFrom, ih h.tail, dropReturns_break]
  | case4 c rest closes breaks ih =>
    by_cases dropped : c = '\r'
    · subst dropped
      exact ih h.tail
    · rw [dropReturns_cons dropped, eraseBlocksFrom, ih h.tail]
      · intro more star found
        obtain ⟨later, same, _⟩ := exists_of_dropReturns_eq_cons h.tail found (by decide)
        exact closes later star same
      · exact breaks
  | case5 rest closed ih =>
    have again : closesBlock (dropReturns rest) = true := by
      rw [closesBlock_dropReturns h.tail.tail, closed]
    rw [← ih h.tail.tail, dropReturns_cons (by decide), dropReturns_cons (by decide),
      eraseBlocksFrom, if_pos again]
  | case6 rest closed =>
    have again : ¬ closesBlock (dropReturns rest) = true := by
      rw [closesBlock_dropReturns h.tail.tail]
      exact closed
    rw [dropReturns_cons (by decide), dropReturns_cons (by decide), eraseBlocksFrom, if_neg again]
  | case7 c rest opens ih =>
    by_cases dropped : c = '\r'
    · subst dropped
      exact ih h.tail
    · rw [dropReturns_cons dropped, dropReturns_cons dropped, eraseBlocksFrom, ih h.tail]
      intro more slash found
      obtain ⟨later, same, _⟩ := exists_of_dropReturns_eq_cons h.tail found (by decide)
      exact opens later slash same

theorem returnsEndLines_eraseBlocksFrom {text : Text} (h : ReturnsEndLines text) (inside : Bool) :
    ReturnsEndLines (eraseBlocksFrom inside text) := by
  fun_induction eraseBlocksFrom inside text with
  | case1 => exact .nil
  | case2 rest ih => exact ih h.tail.tail
  | case3 rest ih => exact (ih h.tail).cons (by simp)
  | case4 c rest _ _ ih => exact ih h.tail
  | case5 rest _ ih => exact ih h.tail.tail
  | case6 => exact h
  | case7 c rest _ ih =>
    refine (ih h.tail).cons fun dropped d more starts => ?_
    subst dropped
    cases rest with
    | nil => simp [eraseBlocksFrom] at starts
    | cons e rest =>
      have same := h.break_of_return
      subst same
      rw [eraseBlocksFrom] at starts
      · exact (List.cons.inj starts).1.symm
      · simp

theorem beforeSlashes_dropReturns {line : Text} (h : ReturnsEndLines line) :
    beforeSlashes (dropReturns line) = dropReturns (beforeSlashes line) := by
  fun_induction beforeSlashes line with
  | case1 => rfl
  | case2 rest => rfl
  | case3 c rest opens ih =>
    by_cases dropped : c = '\r'
    · subst dropped
      exact ih h.tail
    · rw [dropReturns_cons dropped, dropReturns_cons dropped, beforeSlashes, ih h.tail]
      intro more slash found
      obtain ⟨later, same, _⟩ := exists_of_dropReturns_eq_cons h.tail found (by decide)
      exact opens later slash same

theorem beforeHash_dropReturns {line : Text} (h : ReturnsEndLines line) :
    beforeHash (dropReturns line) = dropReturns (beforeHash line) :=
  takeWhile_dropReturns h (.inl rfl)

theorem returnsEndLines_stripSlashComments {source : Text} (h : ReturnsEndLines source) :
    ReturnsEndLines (stripSlashComments source) :=
  (returnsEndLines_eraseBlocksFrom h false).mapLines beforeSlashes_isPrefix

theorem returnsEndLines_stripAllComments {source : Text} (h : ReturnsEndLines source) :
    ReturnsEndLines (stripAllComments source) :=
  (returnsEndLines_stripSlashComments h).mapLines fun _ => List.takeWhile_prefix _

theorem stripSlashComments_dropReturns {source : Text} (h : ReturnsEndLines source) :
    stripSlashComments (dropReturns source) = dropReturns (stripSlashComments source) := by
  unfold stripSlashComments eraseBlocks
  rw [eraseBlocksFrom_dropReturns h,
    mapLines_dropReturns (returnsEndLines_eraseBlocksFrom h false)
      fun _ => beforeSlashes_dropReturns]

theorem stripAllComments_dropReturns {source : Text} (h : ReturnsEndLines source) :
    stripAllComments (dropReturns source) = dropReturns (stripAllComments source) := by
  unfold stripAllComments stripHashComments
  rw [stripSlashComments_dropReturns h,
    mapLines_dropReturns (returnsEndLines_stripSlashComments h) fun _ => beforeHash_dropReturns]

end SnippetGauge
