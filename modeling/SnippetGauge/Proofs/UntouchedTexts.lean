import SnippetGauge.Proofs.LineComments
import SnippetGauge.Proofs.LineMatches

set_option autoImplicit false

namespace SnippetGauge

open Text

def HoldsBlock (text : Text) : Prop :=
  ∃ before body after, text = before ++ '/' :: '*' :: (body ++ '*' :: '/' :: after)

section

variable {c : Char} {text : Text} {change : Text → Text}

theorem holdsBlock_iff :
    HoldsBlock text ↔
      ∃ before rest, text = before ++ '/' :: '*' :: rest ∧ closesBlock rest = true := by
  constructor
  next =>
    rintro ⟨before, body, after, rfl⟩
    exact ⟨before, _, rfl, closesBlock_iff.mpr ⟨body, after, by simp⟩⟩
  next =>
    rintro ⟨before, rest, rfl, closes⟩
    obtain ⟨body, after, rfl⟩ := closesBlock_iff.mp closes
    exact ⟨before, body, after, by simp⟩

theorem holdsBlock_cons :
    HoldsBlock (c :: text) ↔
      (c = '/' ∧ ∃ rest, text = '*' :: rest ∧ closesBlock rest = true) ∨ HoldsBlock text := by
  simp only [holdsBlock_iff]
  constructor
  next =>
    rintro ⟨before, rest, whole, closes⟩
    cases before with
    | nil =>
      obtain ⟨rfl, rfl⟩ := List.cons.inj whole
      exact .inl ⟨rfl, rest, rfl, closes⟩
    | cons d before =>
      obtain ⟨rfl, rfl⟩ := List.cons.inj whole
      exact .inr ⟨before, rest, rfl, closes⟩
  next =>
    rintro (⟨rfl, rest, rfl, closes⟩ | ⟨before, rest, rfl, closes⟩)
    next => exact ⟨[], rest, rfl, closes⟩
    next => exact ⟨c :: before, rest, rfl, closes⟩

theorem not_holdsBlock_of_not_closesBlock (unclosed : closesBlock text = false) :
    ¬ HoldsBlock text := by
  rintro ⟨before, body, after, rfl⟩
  have closes : ['*', '/'] <:+: before ++ '/' :: '*' :: (body ++ '*' :: '/' :: after) :=
    ⟨before ++ '/' :: '*' :: body, after, by simp⟩
  rw [closesBlock_iff.mpr closes] at unclosed
  contradiction

theorem eraseBlocksFrom_sublist (inside : Bool) (text : Text) :
    (eraseBlocksFrom inside text).Sublist text := by
  fun_induction eraseBlocksFrom inside text with
  | case1 => exact .refl []
  | case2 rest ih => exact (ih.cons '/').cons '*'
  | case3 rest ih => exact ih.cons_cons '\n'
  | case4 c rest _ _ ih => exact ih.cons c
  | case5 rest _ ih => exact (ih.cons '*').cons '/'
  | case6 rest _ => exact .refl _
  | case7 c rest _ ih => exact ih.cons_cons c

theorem eraseBlocks_eq_self_iff : eraseBlocks text = text ↔ ¬ HoldsBlock text := by
  unfold eraseBlocks
  induction text with
  | nil => simp [eraseBlocksFrom, HoldsBlock]
  | cons c rest ih =>
    by_cases opens : ∃ inner, c = '/' ∧ rest = '*' :: inner
    next =>
      obtain ⟨inner, rfl, rfl⟩ := opens
      rw [eraseBlocksFrom]
      cases closes : closesBlock inner with
      | true =>
        have shorter := (eraseBlocksFrom_sublist true inner).length_le
        have changed : eraseBlocksFrom true inner ≠ '/' :: '*' :: inner := by
          intro same
          rw [same, List.length_cons, List.length_cons] at shorter
          omega
        have holds := holdsBlock_cons.mpr (.inl ⟨rfl, inner, rfl, closes⟩)
        simp [changed, holds]
      | false =>
        have none : ¬ HoldsBlock ('/' :: '*' :: inner) := by
          simp [holdsBlock_cons, closes, not_holdsBlock_of_not_closesBlock closes]
        simp [none]
    next =>
      have kept : eraseBlocksFrom false (c :: rest) = c :: eraseBlocksFrom false rest := by
        rw [eraseBlocksFrom]
        exact fun inner slash star => opens ⟨inner, slash, star⟩
      have later : HoldsBlock (c :: rest) ↔ HoldsBlock rest := by
        rw [holdsBlock_cons, or_iff_right]
        rintro ⟨slash, inner, star, _⟩
        exact opens ⟨inner, slash, star⟩
      rw [kept, later, List.cons.injEq, ih]
      simp

theorem beforeSlashes_cases (line : Text) :
    (beforeSlashes line = line ∧ ¬ ['/', '/'] <:+: line) ∨
      ((beforeSlashes line).getLast? ≠ some '/' ∧ ¬ ['/', '/'] <:+: beforeSlashes line ∧
        ∃ tail, line = beforeSlashes line ++ '/' :: '/' :: tail) := by
  fun_induction beforeSlashes line with
  | case1 => exact .inl ⟨rfl, by simp⟩
  | case2 rest => exact .inr ⟨by simp, by simp, rest, rfl⟩
  | case3 c rest other ih =>
    have single (tail : Text) (starts : tail <+: rest) (without : ¬ ['/', '/'] <:+: tail) :
        ¬ ['/', '/'] <:+: c :: tail := by
      rw [List.infix_cons_iff]
      rintro (⟨after, whole⟩ | inner)
      next =>
        obtain ⟨rfl, rfl⟩ := List.cons.inj whole
        obtain ⟨more, rfl⟩ := starts
        exact other _ rfl rfl
      next => exact without inner
    rcases ih with ⟨same, without⟩ | ⟨last, without, tail, whole⟩
    next => exact .inl ⟨by rw [same], single rest List.prefix_rfl without⟩
    next =>
      refine .inr ⟨?_, single _ ⟨_, whole.symm⟩ without, tail, by rw [List.cons_append, ← whole]⟩
      cases left : beforeSlashes rest with
      | cons d more => rwa [List.getLast?_cons_cons, ← left]
      | nil =>
        -- The slashes follow this character, so it is no slash itself.
        rintro found
        obtain rfl : c = '/' := by simpa using found
        rw [left] at whole
        exact other _ rfl whole

theorem beforeSlashes_eq_self_iff {line : Text} :
    beforeSlashes line = line ↔ ¬ ['/', '/'] <:+: line := by
  rcases beforeSlashes_cases line with ⟨same, without⟩ | ⟨_, _, tail, whole⟩
  next => simp [same, without]
  next =>
    have found : ['/', '/'] <:+: line := ⟨beforeSlashes line, tail, by simpa using whole.symm⟩
    have changed : beforeSlashes line ≠ line := by
      intro same
      rw [same] at whole
      simpa using congrArg List.length whole
    simp [found, changed]

theorem mapLines_sublist (shorter : ∀ line, (change line).Sublist line) (text : Text) :
    (mapLines change text).Sublist text := by
  induction text using induct_lines with
  | last line single =>
    rw [mapLines_of_single _ single]
    exact shorter line
  | above line rest single ih =>
    rw [mapLines_append_break _ single]
    exact (shorter line).append (ih.cons_cons '\n')

theorem mapLines_eq_self_iff (shorter : ∀ line, (change line).Sublist line) :
    mapLines change text = text ↔ ∀ line ∈ lines text, change line = line := by
  have linewise : mapLines change text = text ↔ (lines text).map change = (lines text).map id := by
    rw [List.map_id, ← lines_mapLines_of_sublist shorter]
    constructor
    next => exact congrArg lines
    next =>
      intro same
      rw [← unlines_lines (mapLines change text), same, unlines_lines]
  rw [linewise]
  exact List.map_inj_left

theorem mapLines_eq_self_iff_not_infix {mark : Text} (single : '\n' ∉ mark)
    (shorter : ∀ line, (change line).Sublist line)
    (spares : ∀ line, change line = line ↔ ¬ mark <:+: line) :
    mapLines change text = text ↔ ¬ mark <:+: text := by
  rw [mapLines_eq_self_iff shorter, infix_iff_mem_lines single]
  simp [spares]

theorem passes_eq_self_iff {first second : Text → Text}
    (shorter : ∀ text, (first text).Sublist text)
    (shorterStill : ∀ text, (second text).Sublist text) :
    second (first text) = text ↔ first text = text ∧ second text = text := by
  constructor
  next =>
    intro same
    -- The second pass adds no character, so it cannot give back what the first one has taken.
    have kept : (second (first text)).Sublist (first text) := shorterStill (first text)
    rw [same] at kept
    have whole : first text = text := (shorter text).antisymm kept
    rw [whole] at same
    exact ⟨whole, same⟩
  next =>
    rintro ⟨whole, same⟩
    rw [whole, same]

theorem mapLines_beforeSlashes_eq_self_iff :
    mapLines beforeSlashes text = text ↔ ¬ ['/', '/'] <:+: text :=
  mapLines_eq_self_iff_not_infix (by decide) beforeSlashes_sublist fun _ => beforeSlashes_eq_self_iff

theorem stripSlashComments_eq_self_iff :
    stripSlashComments text = text ↔ ¬ ['/', '/'] <:+: text ∧ ¬ HoldsBlock text := by
  have passes : stripSlashComments text = text ↔
      eraseBlocks text = text ∧ mapLines beforeSlashes text = text :=
    passes_eq_self_iff (eraseBlocksFrom_sublist false) (mapLines_sublist beforeSlashes_sublist)
  rw [passes, eraseBlocks_eq_self_iff, mapLines_beforeSlashes_eq_self_iff, and_comm]

theorem stripHashComments_eq_self_iff : stripHashComments text = text ↔ '#' ∉ text := by
  have spares (line : Text) : beforeHash line = line ↔ ¬ ['#'] <:+: line := by
    rw [beforeHash_eq_self_iff, List.singleton_infix_iff]
  rw [← List.singleton_infix_iff]
  exact mapLines_eq_self_iff_not_infix (by decide) beforeHash_sublist spares

theorem stripSlashComments_sublist (text : Text) : (stripSlashComments text).Sublist text :=
  (mapLines_sublist beforeSlashes_sublist _).trans (eraseBlocksFrom_sublist false text)

theorem stripAllComments_eq_self_iff :
    stripAllComments text = text ↔ stripSlashComments text = text ∧ stripHashComments text = text :=
  passes_eq_self_iff stripSlashComments_sublist (mapLines_sublist beforeHash_sublist)

end

/-- Each form of stripping leaves a text alone exactly where there is no comment of that form. -/
theorem stripping_eq_self_iff (source : Text) :
    (stripSlashComments source = source ↔ ¬ ['/', '/'] <:+: source ∧ ¬ HoldsBlock source) ∧
      (stripHashComments source = source ↔ '#' ∉ source) ∧
      (stripAllComments source = source ↔
        ¬ ['/', '/'] <:+: source ∧ ¬ HoldsBlock source ∧ '#' ∉ source) := by
  refine ⟨stripSlashComments_eq_self_iff, stripHashComments_eq_self_iff, ?_⟩
  rw [stripAllComments_eq_self_iff, stripSlashComments_eq_self_iff, stripHashComments_eq_self_iff,
    and_assoc]

-- The star after the slash does not close the block that it opens.
example : stripAllComments "a /*/ b".toList = "a /*/ b".toList := by decide

end SnippetGauge
