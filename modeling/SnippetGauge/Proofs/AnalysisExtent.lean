import Mathlib.Algebra.Ring.Nat
import SnippetGauge.Proofs.FindingOrder
import SnippetGauge.Proofs.WrittenJson
import SnippetGauge.Report

set_option autoImplicit false

namespace SnippetGauge

open Text

theorem length_unlines_cons {later : List Text} (line : Text) (more : later ≠ []) :
    (unlines (line :: later)).length = line.length + (unlines later).length + 1 := by
  rw [unlines_cons line more, List.length_append, List.length_cons]
  omega

theorem length_le_unlines_cons (line : Text) (later : List Text) :
    line.length + (unlines later).length ≤ (unlines (line :: later)).length := by
  cases later with
  | nil => simp [unlines]
  | cons next more =>
    rw [length_unlines_cons line (List.cons_ne_nil next more)]
    omega

theorem add_length_le_unlines {source : List Text} {i : Nat} {line : Text}
    (stands : source[i]? = some line) : i + line.length ≤ (unlines source).length := by
  induction source generalizing i with
  | nil => simp at stands
  | cons first later ih =>
    cases i with
    | zero =>
      obtain rfl : first = line := Option.some.inj stands
      rw [Nat.zero_add]
      exact (Nat.le_add_right _ _).trans (length_le_unlines_cons first later)
    | succ i =>
      have more : later ≠ [] := by
        rintro rfl
        simp at stands
      have below := ih stands
      rw [length_unlines_cons first more]
      omega

theorem Aligned.length_le {output source : Text} (h : Aligned output source) :
    output.length ≤ source.length := by
  have joined {short long : List Text} (shorter : List.Forall₂ List.Sublist short long) :
      (unlines short).length ≤ (unlines long).length := by
    induction shorter with
    | nil => exact le_rfl
    | @cons line original later others sub rest ih =>
      have here := sub.length_le
      cases rest with
      | nil => simpa [unlines] using here
      | cons =>
        rw [length_unlines_cons line (List.cons_ne_nil _ _),
          length_unlines_cons original (List.cons_ne_nil _ _)]
        omega
  simpa [unlines_lines] using joined h

theorem length_consWord_le (word : Text) (later : List Text) :
    (consWord word later).length ≤ word.length + later.length := by
  cases word with
  | nil => simp [consWord]
  | cons c rest =>
    simp only [consWord, List.isEmpty_cons, Bool.false_eq_true, if_false, List.length_cons]
    omega

theorem length_pieces_le (line : Text) : (pieces line).length ≤ line.length := by
  have split : (splitPieces line).1.length + (splitPieces line).2.length ≤ line.length := by
    induction line with
    | nil => simp [splitPieces]
    | cons c rest ih =>
      have joined := length_consWord_le (splitPieces rest).1 (splitPieces rest).2
      simp only [splitPieces]
      split_ifs
      · simp only [List.length_nil, List.length_cons]
        omega
      · simp only [List.length_nil, List.length_cons]
        omega
      · simp only [List.length_cons]
        omega
  exact (length_consWord_le _ _).trans split

theorem tokensFrom_extent (language : Language) (first : Nat) (source : List Text) :
    (tokensFrom language first source).length ≤ (unlines source).length ∧
      ∀ token ∈ tokensFrom language first source, token.line < first + (unlines source).length := by
  induction source generalizing first with
  | nil => simp [tokensFrom]
  | cons line later ih =>
    obtain ⟨count, bound⟩ := ih (first + 1)
    have here : (tokenizeLine language first line).length ≤ line.length := by
      simpa [tokenizeLine] using length_pieces_le line
    have total := length_le_unlines_cons line later
    rw [tokensFrom_cons]
    -- A line that has a token has a character, and before each later line there is a line feed.
    refine ⟨by rw [List.length_append]; omega, fun token inside => ?_⟩
    rcases List.mem_append.mp inside with inside | inside
    · have filled := List.length_pos_of_mem inside
      rw [line_of_mem_tokenizeLine inside]
      omega
    · have more : later ≠ [] := by rintro rfl; simp [tokensFrom] at inside
      have below := bound token inside
      rw [length_unlines_cons _ more]
      omega

theorem tokenize_extent (source : Text) (language : Language) :
    (tokenize source language).length ≤ source.length ∧
      ∀ token ∈ tokenize source language, token.line ≤ source.length := by
  have shorter := (stripComments_aligned source language).length_le
  obtain ⟨count, bound⟩ := tokensFrom_extent language 1 (lines (stripComments source language))
  rw [unlines_lines] at count bound
  refine ⟨count.trans shorter, fun token inside => ?_⟩
  have below := bound token inside
  omega

theorem lint_extent {source : Text} (filled : source ≠ []) {language : Language} {finding : Finding}
    (inside : finding ∈ lint source language) : finding.line ≤ source.length := by
  have shorter := (stripComments_aligned source language).length_le
  have positive := List.length_pos_iff.mpr filled
  unfold lint at inside
  split at inside
  next => simp at inside
  next rules _ =>
    rcases List.mem_append.mp inside with ofLine | ofFile
    · obtain ⟨i, line, stands, numbered, looked, _⟩ :=
        Lint.RuleSet.exists_line_of_mem_lintLines ofLine
      -- An empty line would be skipped.
      have holds : 0 < line.length := by
        rw [List.length_pos_iff]
        rintro rfl
        exact absurd rfl (Lint.RuleSet.skipsLine_eq_false_iff.mp looked).1
      have bound := add_length_le_unlines stands
      rw [unlines_lines] at bound
      omega
    · obtain ⟨advice, -, rfl⟩ := List.mem_map.mp ofFile
      exact positive

section

variable {depth : Nat}

theorem readable_ofNat {n : Nat} (small : n < 10 ^ Json.maxIntegerDigits) :
    Json.Readable depth (.int n) :=
  .int ((Nat.length_toDigits_le_iff (by decide) (by decide)).mpr (by simpa using small))

theorem Finding.readable_toJson {finding : Finding} (small : finding.line < 10 ^ Json.maxIntegerDigits) :
    Json.Readable (depth + 1) finding.toJson :=
  .obj (by simpa [Finding.toJson] using ⟨readable_ofNat small, .str _, .str _⟩)

theorem Token.readable_toJson {token : Token} (small : token.line < 10 ^ Json.maxIntegerDigits) :
    Json.Readable (depth + 1) token.toJson :=
  .obj (by simpa [Token.toJson] using ⟨.str _, readable_ofNat small, .str _⟩)

theorem ComplexityReport.readable_toJson (report : ComplexityReport) :
    Json.Readable (depth + 1) report.toJson :=
  .obj (by simpa [ComplexityReport.toJson] using ⟨.str _, .str _⟩)

theorem readable_analyze {code : Text} (filled : code ≠ [])
    (small : code.length < 10 ^ Json.maxIntegerDigits) (hint : Option Language) (withTokens : Bool) :
    Json.Readable (depth + 3) ((analyze code hint).toJson withTokens) := by
  generalize judged : hint.getD (detect code) = language
  obtain ⟨count, bound⟩ := tokenize_extent code language
  have findings : Json.Readable (depth + 2) (.arr ((lint code language).map Finding.toJson)) := by
    refine .arr fun item inside => ?_
    obtain ⟨finding, found, rfl⟩ := List.mem_map.mp inside
    exact Finding.readable_toJson ((lint_extent filled found).trans_lt small)
  have tokens : Json.Readable (depth + 2) (.arr ((tokenize code language).map Token.toJson)) := by
    refine .arr fun item inside => ?_
    obtain ⟨token, found, rfl⟩ := List.mem_map.mp inside
    exact Token.readable_toJson ((bound token found).trans_lt small)
  have complexity : Json.Readable (depth + 2) (estimate code language).toJson :=
    ComplexityReport.readable_toJson _
  have total : Json.Readable (depth + 2) (.int (tokenize code language).length) :=
    readable_ofNat (count.trans_lt small)
  refine .obj ?_
  cases withTokens
  · simpa [analyze, judged, analyzeAs, Analysis.tokenCount]
      using ⟨.str _, findings, complexity, total⟩
  · simpa [analyze, judged, analyzeAs, Analysis.tokenCount]
      using ⟨.str _, findings, complexity, tokens, total⟩

end

end SnippetGauge
