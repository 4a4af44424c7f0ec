import Mathlib.Data.List.TakeWhile
import SnippetGauge.Text.Line

set_option autoImplicit false

namespace SnippetGauge.Text

def withReturns (text : Text) : Text :=
  text.flatMap fun c => if c == '\n' then ['\r', '\n'] else [c]

def dropReturns (text : Text) : Text := text.filter (· != '\r')

/-- After a carriage return comes a line feed or nothing. -/
def ReturnsEndLines (text : Text) : Prop := ∀ c, ['\r', c] <:+: text → c = '\n'

@[simp] theorem dropReturns_nil : dropReturns [] = [] := rfl

@[simp] theorem dropReturns_return (text : Text) :
    dropReturns ('\r' :: text) = dropReturns text := rfl

@[simp] theorem dropReturns_break (text : Text) :
    dropReturns ('\n' :: text) = '\n' :: dropReturns text := rfl

theorem dropReturns_cons {c : Char} (other : c ≠ '\r') (text : Text) :
    dropReturns (c :: text) = c :: dropReturns text :=
  List.filter_cons_of_pos (by simpa using other)

theorem dropReturns_append (first second : Text) :
    dropReturns (first ++ second) = dropReturns first ++ dropReturns second :=
  List.filter_append first second

theorem dropReturns_eq_self {text : Text} (plain : '\r' ∉ text) : dropReturns text = text := by
  apply List.filter_eq_self.mpr
  intro c inside
  have other : c ≠ '\r' := fun same => plain (same ▸ inside)
  simpa using other

theorem contains_dropReturns {c : Char} (other : c ≠ '\r') (text : Text) :
    (dropReturns text).contains c = text.contains c := by
  rw [Bool.eq_iff_iff, List.contains_iff_mem, List.contains_iff_mem]
  simp [dropReturns, other]

theorem dropReturns_reverse (text : Text) :
    dropReturns text.reverse = (dropReturns text).reverse :=
  List.filter_reverse

theorem withReturns_cons_of_ne {c : Char} (other : c ≠ '\n') (text : Text) :
    withReturns (c :: text) = c :: withReturns text := by
  simp [withReturns, other]

theorem withReturns_break (text : Text) :
    withReturns ('\n' :: text) = '\r' :: '\n' :: withReturns text := rfl

theorem withReturns_append (first second : Text) :
    withReturns (first ++ second) = withReturns first ++ withReturns second :=
  List.flatMap_append

theorem withReturns_eq_self {text : Text} (single : '\n' ∉ text) : withReturns text = text := by
  induction text with
  | nil => rfl
  | cons c rest ih =>
    simp only [List.mem_cons, not_or] at single
    rw [withReturns_cons_of_ne (Ne.symm single.1), ih single.2]

namespace ReturnsEndLines

variable {text : Text}

theorem part {part : Text} (h : ReturnsEndLines text) (inside : part <:+: text) :
    ReturnsEndLines part :=
  fun c pair => h c (pair.trans inside)

theorem tail {c : Char} (h : ReturnsEndLines (c :: text)) : ReturnsEndLines text :=
  h.part (List.suffix_cons c text).isInfix

theorem nil : ReturnsEndLines [] := by
  intro c inside
  simp at inside

theorem cons {c : Char} (h : ReturnsEndLines text)
    (ends : c = '\r' → ∀ d rest, text = d :: rest → d = '\n') : ReturnsEndLines (c :: text) := by
  intro d inside
  rw [List.infix_cons_iff] at inside
  rcases inside with ⟨rest, same⟩ | inside
  · simp only [List.cons_append, List.nil_append, List.cons.injEq] at same
    exact ends same.1.symm d rest same.2.symm
  · exact h d inside

theorem break_of_return {c : Char} (h : ReturnsEndLines ('\r' :: c :: text)) : c = '\n' :=
  h c ⟨[], text, rfl⟩

@[elab_as_elim]
theorem induct_ends {motive : (text : Text) → ReturnsEndLines text → Prop} (nil : motive [] .nil)
    (last : ∀ h, motive ['\r'] h)
    (lineEnd : ∀ rest h, motive ('\n' :: rest) h.tail → motive ('\r' :: '\n' :: rest) h)
    (cons : ∀ c rest h, c ≠ '\r' → motive rest h.tail → motive (c :: rest) h)
    (text : Text) (h : ReturnsEndLines text) : motive text h := by
  induction text with
  | nil => exact nil
  | cons c rest ih =>
    by_cases dropped : c = '\r'
    · subst dropped
      cases rest with
      | nil => exact last h
      | cons d rest =>
        have same := h.break_of_return
        subst same
        exact lineEnd rest h (ih h.tail)
    · exact cons c rest h dropped (ih h.tail)

end ReturnsEndLines

theorem dropReturns_withReturns {text : Text} (plain : '\r' ∉ text) :
    dropReturns (withReturns text) = text := by
  induction text with
  | nil => rfl
  | cons c rest ih =>
    simp only [List.mem_cons, not_or] at plain
    by_cases same : c = '\n'
    · subst same
      rw [withReturns_break, dropReturns_return, dropReturns_break, ih plain.2]
    · rw [withReturns_cons_of_ne same, dropReturns_cons (Ne.symm plain.1), ih plain.2]

theorem returnsEndLines_withReturns {text : Text} (plain : '\r' ∉ text) :
    ReturnsEndLines (withReturns text) := by
  induction text with
  | nil => exact .nil
  | cons c rest ih =>
    simp only [List.mem_cons, not_or] at plain
    have later := ih plain.2
    by_cases same : c = '\n'
    · subst same
      rw [withReturns_break]
      refine (later.cons (by simp)).cons fun _ d more found => ?_
      exact (List.cons.inj found).1.symm
    · rw [withReturns_cons_of_ne same]
      exact later.cons fun found => absurd found.symm plain.1

theorem exists_of_dropReturns_eq_cons {text more : Text} {c : Char} (h : ReturnsEndLines text)
    (found : dropReturns text = c :: more) (other : c ≠ '\n') :
    ∃ rest, text = c :: rest ∧ dropReturns rest = more := by
  cases text, h using ReturnsEndLines.induct_ends with
  | nil => simp at found
  | last => simp at found
  | lineEnd rest =>
    rw [dropReturns_return, dropReturns_break] at found
    exact absurd (List.cons.inj found).1.symm other
  | cons d rest _ plain =>
    rw [dropReturns_cons plain, List.cons.injEq] at found
    exact ⟨rest, by rw [found.1], found.2⟩

section Spans

variable {accepts : Char → Bool} {text : Text}

theorem dropWhile_dropReturns (h : ReturnsEndLines text)
    (stops : accepts '\r' = true ∨ accepts '\n' = false) :
    (dropReturns text).dropWhile accepts = dropReturns (text.dropWhile accepts) := by
  induction text, h using ReturnsEndLines.induct_ends with
  | nil => rfl
  | last => by_cases goes : accepts '\r' = true <;> simp [goes]
  | lineEnd rest h ih =>
    by_cases goes : accepts '\r' = true
    · rw [dropReturns_return, List.dropWhile_cons_of_pos goes, ih]
    · have halt : accepts '\n' = false := stops.resolve_left goes
      rw [List.dropWhile_cons_of_neg goes, dropReturns_return, dropReturns_break,
        List.dropWhile_cons_of_neg (by simp [halt])]
  | cons c rest h plain ih =>
    rw [dropReturns_cons plain]
    by_cases goes : accepts c = true
    · rw [List.dropWhile_cons_of_pos goes, List.dropWhile_cons_of_pos goes, ih]
    · rw [List.dropWhile_cons_of_neg goes, List.dropWhile_cons_of_neg goes,
        dropReturns_cons plain]

theorem takeWhile_dropReturns (h : ReturnsEndLines text)
    (stops : accepts '\r' = true ∨ accepts '\n' = false) :
    (dropReturns text).takeWhile accepts = dropReturns (text.takeWhile accepts) := by
  refine List.append_cancel_right (?_ : _ ++ dropReturns (text.dropWhile accepts) = _)
  rw [← dropReturns_append, List.takeWhile_append_dropWhile, ← dropWhile_dropReturns h stops]
  exact List.takeWhile_append_dropWhile

theorem takeWhile_dropReturns_of_pos (goes : accepts '\r' = true) (text : Text) :
    (dropReturns text).takeWhile accepts = dropReturns (text.takeWhile accepts) := by
  unfold dropReturns
  rw [List.takeWhile_filter]
  congr 2
  funext c
  by_cases dropped : c = '\r' <;> simp [dropped, goes]

theorem dropWhile_dropReturns_of_pos (goes : accepts '\r' = true) (text : Text) :
    (dropReturns text).dropWhile accepts = dropReturns (text.dropWhile accepts) := by
  unfold dropReturns
  rw [List.dropWhile_filter]
  congr 2
  funext c
  by_cases dropped : c = '\r' <;> simp [dropped, goes]

end Spans

end SnippetGauge.Text
