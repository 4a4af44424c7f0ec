import SnippetGauge.Proofs.BracedLoops

set_option autoImplicit false

namespace SnippetGauge

open Text

namespace Text

theorem leadingWord_append_break (before after : Text) :
    leadingWord (before ++ '\n' :: after) = leadingWord before := by
  have ends : isWordChar '\n' = false := rfl
  induction before with
  | nil => simp [leadingWord, ends]
  | cons c rest ih =>
    simp only [leadingWord] at ih
    cases goes : isWordChar c <;> simp [leadingWord, goes, ih]

theorem map_word_sitesFrom_append_break (inside : Bool) (before after : Text) :
    (sitesFrom inside (before ++ '\n' :: after)).map (·.word) =
      (sitesFrom inside before).map (·.word) ++ words after := by
  have ends : isWordChar '\n' = false := rfl
  induction before generalizing inside with
  | nil => simp [sitesFrom, ends, words, wordSites]
  | cons c rest ih =>
    simp only [List.cons_append, sitesFrom]
    split
    next => cases inside <;> simp [ih, leadingWord_append_break]
    next => exact ih false

theorem words_append_break (before after : Text) :
    words (before ++ '\n' :: after) = words before ++ words after :=
  map_word_sitesFrom_append_break false before after

theorem words_eq_flatMap (text : Text) : words text = (lines text).flatMap words := by
  have joined (parts : List Text) : words (unlines parts) = parts.flatMap words := by
    induction parts with
    | nil => rfl
    | cons line later ih =>
      by_cases last : later = []
      next => simp [last, unlines]
      next => rw [unlines_cons line last, words_append_break, ih, List.flatMap_cons]
  conv_lhs => rw [← unlines_lines text]
  exact joined (lines text)

end Text

theorem hasLoopWord_eq_any (code : Text) : hasLoopWord code = (lines code).any hasLoopWord := by
  rw [hasLoopWord, words_eq_flatMap, List.any_flatMap]
  rfl

theorem hasLoopWord_eq_false_iff {code : Text} :
    hasLoopWord code = false ↔ "for".toList ∉ words code ∧ "while".toList ∉ words code := by
  simp only [hasLoopWord, List.any_eq_false, Bool.or_eq_true, beq_iff_eq, not_or]
  constructor
  · intro other
    exact ⟨fun inside => (other _ inside).1 rfl, fun inside => (other _ inside).2 rfl⟩
  · rintro ⟨noFor, noWhile⟩ word inside
    exact ⟨fun same => noFor (same ▸ inside), fun same => noWhile (same ▸ inside)⟩

theorem hasLoopWord_of_isBlankText {line : Text} (blank : isBlankText line = true) :
    hasLoopWord line = false := by
  have other (letter : Char) (filled : isBlank letter = false) : letter ∉ line := by
    intro inside
    have found := List.all_eq_true.mp blank letter inside
    simp [filled] at found
  by_contra loop
  rcases letter_mem_of_hasLoopWord (by simpa using loop) with inside | inside
  · exact other 'f' (by decide) inside
  · exact other 'w' (by decide) inside

section

variable {Scan : Type} {step : Scan → Text → Scan} (deepest : Scan → Nat) (Valid : Scan → Prop)

theorem foldl_eq_zero_iff (keeps : ∀ scan line, Valid scan → Valid (step scan line))
    (counts : ∀ scan line, Valid scan →
      (deepest (step scan line) = 0 ↔ deepest scan = 0 ∧ hasLoopWord line = false))
    (scan : Scan) (valid : Valid scan) (source : List Text) :
    deepest (source.foldl step scan) = 0 ↔
      deepest scan = 0 ∧ source.any hasLoopWord = false := by
  induction source generalizing scan with
  | nil => simp
  | cons line later ih =>
    rw [List.foldl_cons, ih _ (keeps scan line valid), counts scan line valid, List.any_cons,
      Bool.or_eq_false_iff, and_assoc]

end

theorem BraceScan.deepest_line_eq_zero_iff (scan : BraceScan) (line : Text)
    (within : scan.depth ≤ scan.deepest) :
    (scan.line line).deepest = 0 ↔ scan.deepest = 0 ∧ hasLoopWord line = false := by
  cases loop : hasLoopWord line <;> simp [BraceScan.line, loop]
  omega

theorem IndentScan.deepest_line_eq_zero_iff (scan : IndentScan) (line : Text) :
    (scan.line line).deepest = 0 ↔ scan.deepest = 0 ∧ hasLoopWord line = false := by
  cases blank : isBlankText line with
  | true => simp [IndentScan.line, blank, hasLoopWord_of_isBlankText blank]
  | false => cases loop : hasLoopWord line <;> simp [IndentScan.line, blank, loop]

theorem braceDepth_eq_zero_iff (source : List Text) :
    braceDepth source = 0 ↔ source.any hasLoopWord = false := by
  have scanned := foldl_eq_zero_iff BraceScan.deepest (fun scan => scan.depth ≤ scan.deepest)
    (fun scan line _ => scan.depth_le_deepest_line line) BraceScan.deepest_line_eq_zero_iff
    ⟨0, 0⟩ (Nat.le_refl 0) source
  simpa [braceDepth] using scanned

theorem indentDepth_eq_zero_iff (source : List Text) :
    indentDepth source = 0 ↔ source.any hasLoopWord = false := by
  have scanned := foldl_eq_zero_iff IndentScan.deepest (fun _ => True) (fun _ _ _ => trivial)
    (fun scan line _ => scan.deepest_line_eq_zero_iff line) ⟨[], 0⟩ trivial source
  simpa [indentDepth] using scanned

theorem loopDepth_eq_zero_iff (code : Text) (language : Language) :
    loopDepth code language = 0 ↔ hasLoopWord code = false := by
  rw [hasLoopWord_eq_any, loopDepth]
  split
  next => exact braceDepth_eq_zero_iff _
  next => exact indentDepth_eq_zero_iff _

end SnippetGauge
