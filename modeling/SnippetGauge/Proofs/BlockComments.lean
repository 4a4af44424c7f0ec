import Mathlib.Data.List.Infix
import SnippetGauge.Proofs.CommentLines

set_option autoImplicit false

namespace SnippetGauge

open Text

/-- Whether a text that starts `inside` of a block ends in one, what follows taken to close it. -/
def endsInside : (inside : Bool) → Text → Bool
  | inside, [] => inside
  | true, '*' :: '/' :: rest => endsInside false rest
  | true, _ :: rest => endsInside true rest
  | false, '/' :: '*' :: rest => endsInside true rest
  | false, _ :: rest => endsInside false rest

/-- What is left of a text when its last block is closed by what follows. -/
def outsideBlocks : (inside : Bool) → Text → Text
  | _, [] => []
  | true, '*' :: '/' :: rest => outsideBlocks false rest
  | true, '\n' :: rest => '\n' :: outsideBlocks true rest
  | true, _ :: rest => outsideBlocks true rest
  | false, '/' :: '*' :: rest => outsideBlocks true rest
  | false, c :: rest => c :: outsideBlocks false rest

def keptInBlock (c : Char) : Text := if c = '\n' then [c] else []

theorem keptInBlock_append (c : Char) (text : Text) :
    keptInBlock c ++ List.replicate (text.count '\n') '\n' =
      List.replicate ((c :: text).count '\n') '\n' := by
  unfold keptInBlock
  split
  next same => rw [same, List.count_cons_self, List.replicate_succ, List.singleton_append]
  next other => rw [List.count_cons_of_ne other, List.nil_append]

section

variable {c : Char} {rest : Text} (other : ∀ tail, c = '*' → rest = '/' :: tail → False)

include other

theorem outsideBlocks_cons_inside :
    outsideBlocks true (c :: rest) = keptInBlock c ++ outsideBlocks true rest := by
  by_cases same : c = '\n'
  · rw [same, outsideBlocks]
    rfl
  · rw [keptInBlock, if_neg same, outsideBlocks, List.nil_append]
    all_goals assumption

theorem eraseBlocksFrom_cons_inside :
    eraseBlocksFrom true (c :: rest) = keptInBlock c ++ eraseBlocksFrom true rest := by
  by_cases same : c = '\n'
  · rw [same, eraseBlocksFrom]
    rfl
  · rw [keptInBlock, if_neg same, eraseBlocksFrom, List.nil_append]
    all_goals assumption

end

/-- No mark of a block can begin before this text and end in it. -/
def StartsApart (text : Text) : Prop := text.head? ≠ some '/' ∧ text.head? ≠ some '*'

theorem StartsApart.cons {c : Char} (slash : c ≠ '/') (star : c ≠ '*') (rest : Text) :
    StartsApart (c :: rest) := by
  simp [StartsApart, slash, star]

theorem startsApart_break (rest : Text) : StartsApart ('\n' :: rest) :=
  .cons (by decide) (by decide) rest

section

variable {text more : Text}

theorem StartsApart.no_mark (apart : StartsApart more) {c first second : Char}
    (mark : second = '/' ∨ second = '*')
    (other : ∀ rest, c = first → text = second :: rest → False) :
    ∀ rest, c = first → text ++ more = second :: rest → False := by
  intro rest same found
  cases text with
  | nil =>
    subst found
    rcases mark with rfl | rfl <;> simp [StartsApart] at apart
  | cons d text => exact other text same (by rw [(List.cons.inj found).1])

theorem closesBlock_append (apart : StartsApart more) (text : Text) :
    closesBlock (text ++ more) = (closesBlock text || closesBlock more) := by
  fun_induction closesBlock text with
  | case1 => rfl
  | case2 rest => rfl
  | case3 c rest other ih =>
    rw [List.cons_append, closesBlock, ih]
    exact apart.no_mark (.inl rfl) other

theorem endsInside_append (apart : StartsApart more) (inside : Bool) (text : Text) :
    endsInside inside (text ++ more) = endsInside (endsInside inside text) more := by
  fun_induction endsInside inside text with
  | case1 => rfl
  | case2 rest ih => exact ih
  | case3 c rest other ih =>
    rw [List.cons_append, endsInside, ih]
    exact apart.no_mark (.inl rfl) other
  | case4 rest ih => exact ih
  | case5 c rest other ih =>
    rw [List.cons_append, endsInside, ih]
    exact apart.no_mark (.inr rfl) other

theorem closesBlock_iff : closesBlock text = true ↔ ['*', '/'] <:+: text := by
  fun_induction closesBlock text with
  | case1 => simp
  | case2 rest => simpa using ⟨[], rest, rfl⟩
  | case3 c rest other ih =>
    rw [ih, List.infix_cons_iff]
    constructor
    · exact .inr
    · rintro (⟨tail, found⟩ | inner)
      · obtain ⟨star, found⟩ := List.cons.inj found
        exact (other tail star.symm found.symm).elim
      · exact inner

theorem closesBlock_cons (closes : closesBlock text = true) (c : Char) :
    closesBlock (c :: text) = true :=
  closesBlock_iff.mpr (List.infix_cons (closesBlock_iff.mp closes))

theorem outsideBlocks_append (apart : StartsApart more) (inside : Bool) (text : Text) :
    outsideBlocks inside (text ++ more) =
      outsideBlocks inside text ++ outsideBlocks (endsInside inside text) more := by
  fun_induction endsInside inside text with
  | case1 => rfl
  | case2 rest ih => exact ih
  | case3 c rest other ih =>
    have later := apart.no_mark (.inl rfl) other
    rw [List.cons_append, outsideBlocks_cons_inside later, outsideBlocks_cons_inside other, ih,
      List.append_assoc]
  | case4 rest ih => exact ih
  | case5 c rest other ih =>
    have later := apart.no_mark (.inr rfl) other
    rw [List.cons_append, outsideBlocks, outsideBlocks, ih, List.cons_append]
    all_goals assumption

theorem endsInside_of_not_closesBlock (unclosed : closesBlock text = false) :
    endsInside true text = true := by
  fun_induction closesBlock text with
  | case1 => rfl
  | case2 rest => simp at unclosed
  | case3 c rest other ih =>
    rw [endsInside]
    · exact ih unclosed
    · exact other

theorem outsideBlocks_of_not_closesBlock (unclosed : closesBlock text = false) :
    outsideBlocks true text = List.replicate (text.count '\n') '\n' := by
  fun_induction closesBlock text with
  | case1 => rfl
  | case2 rest => simp at unclosed
  | case3 c rest other ih => rw [outsideBlocks_cons_inside other, ih unclosed, keptInBlock_append]

theorem eraseBlocksFrom_close (unclosed : closesBlock text = false) (more : Text) :
    eraseBlocksFrom true (text ++ '*' :: '/' :: more) =
      List.replicate (text.count '\n') '\n' ++ eraseBlocksFrom false more := by
  fun_induction closesBlock text with
  | case1 => rfl
  | case2 rest => simp at unclosed
  | case3 c rest other ih =>
    have later : ∀ tail, c = '*' → rest ++ '*' :: '/' :: more = '/' :: tail → False := by
      intro tail star found
      cases rest with
      | nil => simp at found
      | cons d rest => exact other rest star (by rw [(List.cons.inj found).1])
    rw [List.cons_append, eraseBlocksFrom_cons_inside later, ih unclosed, ← keptInBlock_append,
      List.append_assoc]

theorem eraseBlocksFrom_of_not_closesBlock (unclosed : closesBlock text = false) :
    eraseBlocksFrom false text = text := by
  fun_induction closesBlock text with
  | case1 => rfl
  | case2 rest => simp at unclosed
  | case3 c rest other ih =>
    by_cases opens : ∃ inner, c = '/' ∧ rest = '*' :: inner
    · obtain ⟨inner, rfl, rfl⟩ := opens
      have never : ¬ closesBlock inner = true := by
        intro closes
        simp [closesBlock_cons closes] at unclosed
      rw [eraseBlocksFrom, if_neg never]
    · rw [eraseBlocksFrom, ih unclosed]
      exact fun inner slash star => opens ⟨inner, slash, star⟩

theorem eraseBlocksFrom_append_of_closed (apart : StartsApart more) {inside : Bool} {text : Text}
    (closed : endsInside inside text = true → closesBlock more = true) :
    eraseBlocksFrom inside (text ++ more) =
      outsideBlocks inside text ++ eraseBlocksFrom (endsInside inside text) more := by
  fun_induction endsInside inside text with
  | case1 => rfl
  | case2 rest ih => exact ih closed
  | case3 c rest other ih =>
    have later := apart.no_mark (.inl rfl) other
    rw [List.cons_append, eraseBlocksFrom_cons_inside later, outsideBlocks_cons_inside other,
      ih closed, List.append_assoc]
  | case4 rest ih =>
    -- A block that begins here is closed in this text, or else by what follows.
    have closes : closesBlock (rest ++ more) = true := by
      rw [closesBlock_append apart]
      cases unclosed : closesBlock rest with
      | true => rfl
      | false => exact closed (endsInside_of_not_closesBlock unclosed)
    rw [List.cons_append, List.cons_append, eraseBlocksFrom, if_pos closes, outsideBlocks,
      ih closed]
  | case5 c rest other ih =>
    have later := apart.no_mark (.inr rfl) other
    rw [List.cons_append, eraseBlocksFrom, outsideBlocks, ih closed, List.cons_append]
    all_goals assumption

theorem eraseBlocksFrom_append_of_open (apart : StartsApart more) {inside : Bool} {text : Text}
    (unclosed : closesBlock more = false) (entered : inside = true → closesBlock text = true) :
    eraseBlocksFrom inside (text ++ more) = eraseBlocksFrom inside text ++ more := by
  fun_induction eraseBlocksFrom inside text with
  | case1 inside =>
    cases inside with
    | true => simp [closesBlock] at entered
    | false => exact eraseBlocksFrom_of_not_closesBlock unclosed
  | case2 rest ih => exact ih (by simp)
  | case3 rest ih =>
    rw [closesBlock_cons_of_ne (by decide)] at entered
    rw [List.cons_append, eraseBlocksFrom_break, ih entered, List.cons_append]
  | case4 c rest other single ih =>
    have later := apart.no_mark (.inl rfl) other
    rw [closesBlock] at entered
    · rw [List.cons_append, eraseBlocksFrom, ih entered]
      all_goals assumption
    · exact other
  | case5 rest closes ih =>
    have closed : closesBlock (rest ++ more) = true := by simp [closesBlock_append apart, closes]
    rw [List.cons_append, List.cons_append, eraseBlocksFrom, if_pos closed, ih fun _ => closes]
  | case6 rest closes =>
    have never : ¬ closesBlock (rest ++ more) = true := by
      simp [closesBlock_append apart, closes, unclosed]
    rw [List.cons_append, List.cons_append, eraseBlocksFrom, if_neg never]
  | case7 c rest other ih =>
    have later := apart.no_mark (.inr rfl) other
    rw [List.cons_append, eraseBlocksFrom, ih (by simp), List.cons_append]
    exact later

theorem eraseBlocksFrom_eq_outsideBlocks {inside : Bool} (ends : endsInside inside text = false) :
    eraseBlocksFrom inside text = outsideBlocks inside text := by
  have apart : StartsApart [] := by simp [StartsApart]
  have closed : endsInside inside text = true → closesBlock [] = true := by simp [ends]
  simpa [eraseBlocksFrom] using eraseBlocksFrom_append_of_closed apart closed

theorem outsideBlocks_sublist (inside : Bool) (text : Text) :
    (outsideBlocks inside text).Sublist text := by
  fun_induction outsideBlocks inside text with
  | case1 => exact List.Sublist.refl []
  | case2 rest ih => exact (ih.cons '/').cons '*'
  | case3 rest ih => exact ih.cons_cons '\n'
  | case4 c rest _ _ ih => exact ih.cons c
  | case5 rest ih => exact (ih.cons '*').cons '/'
  | case6 c rest _ ih => exact ih.cons_cons c

theorem break_notMem_eraseBlocksFrom {inside : Bool} (single : '\n' ∉ text) :
    '\n' ∉ eraseBlocksFrom inside text := by
  have same := (eraseBlocksFrom_aligned inside text).count_break_eq
  rwa [← List.count_eq_zero, same, List.count_eq_zero]

def carriesBlock (inside : Bool) (line below : Text) : Bool :=
  endsInside inside line && closesBlock below

def keptOfLine (inside : Bool) (line below : Text) : Text :=
  if carriesBlock inside line below then outsideBlocks inside line else eraseBlocksFrom inside line

theorem eraseBlocksFrom_line {inside : Bool} {line below : Text}
    (entered : inside = true → closesBlock line = true ∨ closesBlock below = true) :
    eraseBlocksFrom inside (line ++ '\n' :: below) =
      keptOfLine inside line below ++
        '\n' :: eraseBlocksFrom (carriesBlock inside line below) below := by
  have apart := startsApart_break below
  unfold keptOfLine carriesBlock
  cases closes : closesBlock below with
  | false =>
    have unclosed : closesBlock ('\n' :: below) = false := by
      rwa [closesBlock_cons_of_ne (by decide)]
    have within : inside = true → closesBlock line = true := by simpa [closes] using entered
    rw [eraseBlocksFrom_append_of_open apart unclosed within, Bool.and_false,
      eraseBlocksFrom_of_not_closesBlock closes]
    rfl
  | true =>
    have closed : closesBlock ('\n' :: below) = true := closesBlock_cons closes '\n'
    rw [eraseBlocksFrom_append_of_closed apart fun _ => closed, Bool.and_true]
    cases ends : endsInside inside line with
    | true => simp [eraseBlocksFrom_break]
    | false => simp [eraseBlocksFrom_break, eraseBlocksFrom_eq_outsideBlocks ends]

theorem break_notMem_keptOfLine {inside : Bool} {line : Text} (single : '\n' ∉ line)
    (below : Text) : '\n' ∉ keptOfLine inside line below := by
  unfold keptOfLine
  split
  · exact fun found => single ((outsideBlocks_sublist inside line).subset found)
  · exact break_notMem_eraseBlocksFrom single

end

def HasBlocks (language : Language) : Prop := language = .cpp ∨ language = .java

theorem HasBlocks.stripComments_eq {language : Language} (blocks : HasBlocks language)
    (source : Text) : stripComments source language = stripSlashComments source := by
  rcases blocks with rfl | rfl <;> rfl

end SnippetGauge
