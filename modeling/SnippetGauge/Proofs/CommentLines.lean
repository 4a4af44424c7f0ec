import Mathlib.Data.List.TakeWhile
import SnippetGauge.Proofs.Lines

set_option autoImplicit false

namespace SnippetGauge

open Text

def Aligned (output source : Text) : Prop :=
  List.Forall₂ List.Sublist (lines output) (lines source)

namespace Aligned

theorem refl (source : Text) : Aligned source source :=
  List.forall₂_same.mpr fun line _ => List.Sublist.refl line

theorem trans {output middle source : Text} (first : Aligned output middle)
    (second : Aligned middle source) : Aligned output source := by
  unfold Aligned at first second ⊢
  generalize lines output = short at first
  generalize lines middle = between at first second
  generalize lines source = long at second
  induction first generalizing long with
  | nil => exact second
  | cons shorter later ih =>
    cases second with
    | cons longer others => exact .cons (shorter.trans longer) (ih _ others)

theorem keepBreak {output source : Text} (h : Aligned output source) :
    Aligned ('\n' :: output) ('\n' :: source) := by
  unfold Aligned at h ⊢
  rw [lines_break, lines_break]
  exact .cons (List.Sublist.refl []) h

theorem keep (c : Char) {output source : Text} (h : Aligned output source) :
    Aligned (c :: output) (c :: source) := by
  by_cases same : c = '\n'
  · subst same
    exact h.keepBreak
  · obtain ⟨line, later, short⟩ := exists_lines_eq output
    obtain ⟨original, others, long⟩ := exists_lines_eq source
    unfold Aligned at h ⊢
    rw [short, long, List.forall₂_cons] at h
    rw [lines_cons_of_ne same short, lines_cons_of_ne same long]
    exact .cons (h.1.cons_cons c) h.2

theorem drop {c : Char} {output source : Text} (other : c ≠ '\n') (h : Aligned output source) :
    Aligned output (c :: source) := by
  obtain ⟨line, later, short⟩ := exists_lines_eq output
  obtain ⟨original, others, long⟩ := exists_lines_eq source
  unfold Aligned at h ⊢
  rw [short, long, List.forall₂_cons] at h
  rw [short, lines_cons_of_ne other long]
  exact .cons (h.1.cons c) h.2

theorem lineCount_eq {output source : Text} (h : Aligned output source) :
    lineCount output = lineCount source :=
  h.length_eq

theorem count_break_eq {output source : Text} (h : Aligned output source) :
    output.count '\n' = source.count '\n' := by
  have same := h.lineCount_eq
  rw [lineCount_eq_count, lineCount_eq_count] at same
  omega

theorem line_sublist {output source : Text} (h : Aligned output source) (i : Nat) :
    ((lines output).getD i []).Sublist ((lines source).getD i []) := by
  unfold Aligned at h
  generalize lines output = short at h
  generalize lines source = long at h
  induction h generalizing i with
  | nil => simp
  | cons shorter later ih =>
    cases i with
    | zero => exact shorter
    | succ i => exact ih i

theorem of_mapLines {change : Text → Text} (shorter : ∀ line, (change line).Sublist line)
    (source : Text) : Aligned (mapLines change source) source := by
  have whole (line : Text) (inside : line ∈ lines source) : '\n' ∉ change line :=
    fun found => break_notMem_of_mem_lines inside ((shorter line).subset found)
  unfold Aligned
  rw [lines_mapLines whole, List.forall₂_map_left_iff]
  exact List.forall₂_same.mpr fun line _ => shorter line

end Aligned

theorem eraseBlocksFrom_aligned (inside : Bool) (source : Text) :
    Aligned (eraseBlocksFrom inside source) source := by
  fun_induction eraseBlocksFrom inside source with
  | case1 => exact .refl []
  | case2 rest ih => exact (ih.drop (by decide)).drop (by decide)
  | case3 rest ih => exact ih.keepBreak
  | case4 c rest open_ other ih => exact ih.drop fun same => other same
  | case5 rest closed ih => exact (ih.drop (by decide)).drop (by decide)
  | case6 rest unclosed => exact .refl _
  | case7 c rest other ih => exact ih.keep c

theorem beforeSlashes_isPrefix (line : Text) : beforeSlashes line <+: line := by
  fun_induction beforeSlashes line with
  | case1 => exact List.prefix_refl []
  | case2 rest => exact List.nil_prefix
  | case3 c rest _ ih => exact (List.prefix_cons_inj c).mpr ih

theorem beforeSlashes_sublist (line : Text) : (beforeSlashes line).Sublist line :=
  (beforeSlashes_isPrefix line).sublist

theorem beforeHash_sublist (line : Text) : (beforeHash line).Sublist line :=
  List.takeWhile_sublist _

theorem beforeHash_eq_self_iff {line : Text} : beforeHash line = line ↔ '#' ∉ line := by
  rw [beforeHash, List.takeWhile_eq_self_iff, ← List.forall_mem_ne']
  simp only [bne_iff_ne, ne_eq]

theorem stripSlashComments_aligned (source : Text) : Aligned (stripSlashComments source) source :=
  (Aligned.of_mapLines beforeSlashes_sublist _).trans (eraseBlocksFrom_aligned false source)

theorem stripHashComments_aligned (source : Text) : Aligned (stripHashComments source) source :=
  .of_mapLines beforeHash_sublist source

theorem stripAllComments_aligned (source : Text) : Aligned (stripAllComments source) source :=
  (stripHashComments_aligned _).trans (stripSlashComments_aligned source)

theorem stripComments_aligned (source : Text) (language : Language) :
    Aligned (stripComments source language) source := by
  cases language with
  | cpp => exact stripSlashComments_aligned source
  | java => exact stripSlashComments_aligned source
  | python => exact stripHashComments_aligned source
  | unidentified => exact .refl source

/-- As many line feeds as before, and each line made of characters of the same line. -/
def KeepsLines (strip : Text → Text) : Prop :=
  ∀ source, (strip source).count '\n' = source.count '\n' ∧
    ∀ i, ((lines (strip source)).getD i []).Sublist ((lines source).getD i [])

theorem keepsLines_of_aligned {strip : Text → Text} (h : ∀ source, Aligned (strip source) source) :
    KeepsLines strip :=
  fun source => ⟨(h source).count_break_eq, (h source).line_sublist⟩

theorem stripping_keepsLines :
    KeepsLines stripSlashComments ∧ KeepsLines stripHashComments ∧ KeepsLines stripAllComments ∧
      ∀ language, KeepsLines (stripComments · language) := by
  refine ⟨?_, ?_, ?_, ?_⟩
  · exact keepsLines_of_aligned stripSlashComments_aligned
  · exact keepsLines_of_aligned stripHashComments_aligned
  · exact keepsLines_of_aligned stripAllComments_aligned
  · intro language
    exact keepsLines_of_aligned fun source => stripComments_aligned source language

end SnippetGauge
