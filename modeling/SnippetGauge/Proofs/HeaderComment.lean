import SnippetGauge.Proofs.BlockComments
import SnippetGauge.Proofs.MovedDown

set_option autoImplicit false

namespace SnippetGauge

open Text

def blockComment (body : Text) : Text := '/' :: '*' :: (body ++ ['*', '/'])

def headerComment (body : Text) : Text := '/' :: '*' :: (body ++ ['*', '/', '\n'])

def headerHeight (body : Text) : Nat := (headerComment body).count '\n'

theorem headerHeight_eq (body : Text) : headerHeight body = body.count '\n' + 1 := by
  simp [headerHeight, headerComment]

def lineLevelFindings (source : Text) (language : Language) : List Finding :=
  match Lint.rules? language with
  | none => []
  | some rules => rules.lineFindings (stripComments source language)

def fileLevelFindings (source : Text) (language : Language) : List Finding :=
  match Lint.rules? language with
  | none => []
  | some rules => rules.fileFindings (stripComments source language)

theorem lint_eq_append (source : Text) (language : Language) :
    lint source language =
      lineLevelFindings source language ++ fileLevelFindings source language := by
  unfold lint lineLevelFindings fileLevelFindings
  cases Lint.rules? language <;> rfl

theorem line_of_mem_fileLevelFindings {source : Text} {language : Language} {finding : Finding}
    (inside : finding ∈ fileLevelFindings source language) : finding.line = 1 := by
  unfold fileLevelFindings at inside
  split at inside
  · simp at inside
  · obtain ⟨advice, _, rfl⟩ := List.mem_map.mp inside
    rfl

theorem mapLines_breaks {change : Text → Text} (blank : change [] = []) (count : Nat)
    (text : Text) :
    mapLines change (breaks count ++ text) = breaks count ++ mapLines change text := by
  induction count with
  | zero => rfl
  | succ count ih =>
    rw [breaks, List.replicate_succ, List.cons_append, mapLines_break, blank]
    exact congrArg ('\n' :: ·) ih

section

variable {body : Text} (source : Text)

theorem eraseBlocks_blockComment (unclosed : ¬ ['*', '/'] <:+: body) :
    eraseBlocks (blockComment body ++ source) = breaks (body.count '\n') ++ eraseBlocks source := by
  have never : closesBlock body = false :=
    Bool.eq_false_iff.mpr (mt closesBlock_iff.mp unclosed)
  have whole : blockComment body ++ source = '/' :: '*' :: (body ++ '*' :: '/' :: source) := by
    simp [blockComment]
  -- The close behind the body is the first one, whatever the source holds.
  have closes : closesBlock (body ++ '*' :: '/' :: source) = true :=
    closesBlock_iff.mpr ⟨body, source, by simp⟩
  rw [eraseBlocks, whole, eraseBlocksFrom, if_pos closes, eraseBlocksFrom_close never]
  rfl

theorem eraseBlocks_headerComment (unclosed : ¬ ['*', '/'] <:+: body) :
    eraseBlocks (headerComment body ++ source) =
      breaks (headerHeight body) ++ eraseBlocks source := by
  have whole : headerComment body ++ source = blockComment body ++ '\n' :: source := by
    simp [headerComment, blockComment]
  rw [whole, eraseBlocks_blockComment _ unclosed, headerHeight_eq, breaks, breaks,
    List.replicate_succ', List.append_assoc]
  rfl

theorem stripSlashComments_headerComment (unclosed : ¬ ['*', '/'] <:+: body) :
    stripSlashComments (headerComment body ++ source) =
      breaks (headerHeight body) ++ stripSlashComments source := by
  unfold stripSlashComments
  rw [eraseBlocks_headerComment source unclosed, mapLines_breaks rfl]

theorem estimate_headerComment (unclosed : ¬ ['*', '/'] <:+: body) (language : Language) :
    estimate (headerComment body ++ source) language = estimate source language := by
  have stripped : stripAllComments (headerComment body ++ source) =
      breaks (headerHeight body) ++ stripAllComments source := by
    unfold stripAllComments
    rw [stripSlashComments_headerComment source unclosed]
    exact mapLines_breaks rfl _ _
  have report := eq_of_break (f := fun code => baseReport code language) (stripAllComments source)
    fun code => baseReport_break code language
  have remarks := eq_of_break (stripAllComments source) notes_break
  simp only [estimate, stripped, report, remarks]

variable {language : Language}

theorem stripComments_headerComment (unclosed : ¬ ['*', '/'] <:+: body)
    (blocks : HasBlocks language) :
    stripComments (headerComment body ++ source) language =
      breaks (headerHeight body) ++ stripComments source language := by
  rw [blocks.stripComments_eq, blocks.stripComments_eq,
    stripSlashComments_headerComment source unclosed]

theorem tokenize_headerComment (unclosed : ¬ ['*', '/'] <:+: body) (blocks : HasBlocks language) :
    tokenize (headerComment body ++ source) language =
      (tokenize source language).map (·.movedDown (headerHeight body)) := by
  unfold tokenize
  rw [stripComments_headerComment source unclosed blocks, lines_breaks_append]
  exact (tokensFrom_blank language 1 _ _).trans (tokensFrom_add language 1 _ _)

theorem lineLevelFindings_headerComment (unclosed : ¬ ['*', '/'] <:+: body)
    (blocks : HasBlocks language) :
    lineLevelFindings (headerComment body ++ source) language =
      (lineLevelFindings source language).map (·.movedDown (headerHeight body)) := by
  unfold lineLevelFindings
  rw [stripComments_headerComment source unclosed blocks]
  cases Lint.rules? language with
  | none => rfl
  | some rules => exact rules.lineFindings_breaks _ _

theorem fileLevelFindings_headerComment (unclosed : ¬ ['*', '/'] <:+: body)
    (blocks : HasBlocks language) :
    fileLevelFindings (headerComment body ++ source) language =
      fileLevelFindings source language := by
  unfold fileLevelFindings
  rw [stripComments_headerComment source unclosed blocks]
  cases known : Lint.rules? language with
  | none => rfl
  | some rules => exact Lint.RuleSet.fileFindings_breaks _ (Lint.skipsBreak known) _

theorem analyze_headerComment (body source : Text) (language : Language)
    (unclosed : ¬ ['*', '/'] <:+: body) (blocks : HasBlocks language) :
    let headed := analyze (headerComment body ++ source) (some language)
    let plain := analyze source (some language)
    headed.complexity = plain.complexity ∧
      headed.tokens = plain.tokens.map (·.movedDown (headerHeight body)) ∧
      plain.findings = lineLevelFindings source language ++ fileLevelFindings source language ∧
      headed.findings =
        (lineLevelFindings source language).map (·.movedDown (headerHeight body)) ++
          fileLevelFindings source language ∧
      ∀ finding ∈ fileLevelFindings source language, finding.line = 1 := by
  have levels := lint_eq_append (headerComment body ++ source) language
  rw [lineLevelFindings_headerComment source unclosed blocks,
    fileLevelFindings_headerComment source unclosed blocks] at levels
  simp only [analyze, analyzeAs, Option.getD_some]
  exact ⟨estimate_headerComment source unclosed language,
    tokenize_headerComment source unclosed blocks, lint_eq_append source language, levels,
    fun _ => line_of_mem_fileLevelFindings⟩

end

def notice : Text := "\n * Don't loop: for // while.\n * See licences/*.txt\n *".toList

def greeting : Text := "int main() \x7b\n  cout << 1\n\x7d".toList

theorem analyze_notice :
    ¬ ['*', '/'] <:+: notice ∧ HasBlocks .cpp ∧
      (analyze (headerComment notice ++ greeting) (some .cpp)).findings.map (·.line) =
        [6, 1, 1] := by
  have unclosed : ¬ ['*', '/'] <:+: notice := by decide
  have headed := (analyze_headerComment notice greeting .cpp unclosed (.inl rfl)).2.2.2.1
  refine ⟨unclosed, .inl rfl, ?_⟩
  rw [headed]
  decide

end SnippetGauge
