import SnippetGauge.Proofs.HeaderComment
import SnippetGauge.Proofs.TrackedLines

set_option autoImplicit false

namespace SnippetGauge

open Text

/-- What stands behind the last block that is closed in the text, where `since` stands behind the
last one before it. -/
def sinceBlocks : (inside : Bool) → (since text : Text) → Text
  | _, since, [] => since
  | true, _, '*' :: '/' :: rest => sinceBlocks false rest rest
  | true, since, _ :: rest => sinceBlocks true since rest
  | false, since, '/' :: '*' :: rest => sinceBlocks true since rest
  | false, since, _ :: rest => sinceBlocks false since rest

def behindBlocks (text : Text) : Text := sinceBlocks false text text

/-- Behind its last block comment the text, if it is to be read with blocks, opens no other. -/
def LeavesNoBlock (language : Language) (text : Text) : Prop :=
  HasBlocks language → ¬ ['/', '*'] <:+: behindBlocks text

section

variable {above : Text} {language : Language}

theorem endsInside_of_sinceBlocks {inside : Bool} {since text : Text} (part : text <:+ since)
    (opened : inside = true → ['/', '*'] <:+: since)
    (unopened : ¬ ['/', '*'] <:+: sinceBlocks inside since text) :
    endsInside inside text = false := by
  fun_induction sinceBlocks inside since text with
  | case1 inside since =>
    cases inside with
    | true => exact absurd (opened rfl) unopened
    | false => rfl
  | case2 since rest ih => exact ih (List.suffix_refl rest) (by simp) unopened
  | case3 since c rest other ih =>
    rw [endsInside]
    · exact ih ((List.suffix_cons c rest).trans part) opened unopened
    · exact other
  | case4 since rest ih =>
    have opens : ['/', '*'] <:+: since := by
      have start : ['/', '*'] <:+: '/' :: '*' :: rest := ⟨[], rest, rfl⟩
      exact start.trans part.isInfix
    have later : rest <:+ since := (List.suffix_append ['/', '*'] rest).trans part
    exact ih later (fun _ => opens) unopened
  | case5 since c rest other ih =>
    rw [endsInside]
    · exact ih ((List.suffix_cons c rest).trans part) opened unopened
    · exact other

theorem endsInside_of_behindBlocks (unopened : ¬ ['/', '*'] <:+: behindBlocks above) :
    endsInside false above = false :=
  endsInside_of_sinceBlocks (List.suffix_refl above) (by simp) unopened

theorem eraseBlocks_append (unopened : ¬ ['/', '*'] <:+: behindBlocks above) (below : Text) :
    eraseBlocks (above ++ '\n' :: below) = eraseBlocks above ++ '\n' :: eraseBlocks below := by
  have ends := endsInside_of_behindBlocks unopened
  have erased : eraseBlocksFrom false (above ++ '\n' :: below) =
      outsideBlocks false above ++ eraseBlocksFrom (endsInside false above) ('\n' :: below) :=
    eraseBlocksFrom_append_of_closed (startsApart_break below) (by simp [ends])
  rw [ends, ← eraseBlocksFrom_eq_outsideBlocks ends] at erased
  simpa [eraseBlocks, eraseBlocksFrom_break] using erased

theorem stripComments_append (settled : LeavesNoBlock language above) (below : Text) :
    stripComments (above ++ '\n' :: below) language =
      stripComments above language ++ '\n' :: stripComments below language := by
  have slashes (blocks : HasBlocks language) :
      stripSlashComments (above ++ '\n' :: below) =
        stripSlashComments above ++ '\n' :: stripSlashComments below := by
    simp only [stripSlashComments, eraseBlocks_append (settled blocks), mapLines_append]
  cases language with
  | cpp => exact slashes (.inl rfl)
  | java => exact slashes (.inr rfl)
  | python => exact mapLines_append beforeHash above below
  | unidentified => rfl

theorem lines_stripComments_append (settled : LeavesNoBlock language above) (below : Text) :
    lines (stripComments (above ++ '\n' :: below) language) =
      lines (stripComments above language) ++ lines (stripComments below language) := by
  rw [stripComments_append settled, lines_append]

end

theorem length_lines_stripComments (source : Text) (language : Language) :
    (lines (stripComments source language)).length = lineCount source :=
  (stripComments_aligned source language).lineCount_eq

theorem tokensFrom_append (language : Language) (first : Nat) (above below : List Text) :
    tokensFrom language first (above ++ below) =
      tokensFrom language first above ++ tokensFrom language (first + above.length) below := by
  simp [tokensFrom, List.zipIdx_append]

namespace Lint

theorem tracksIndentation_of_hasBlocks {language : Language} {rules : RuleSet}
    (blocks : HasBlocks language) (known : rules? language = some rules) :
    rules.tracksIndentation = false := by
  rcases blocks with rfl | rfl <;> cases known <;> rfl

end Lint

theorem tokenize_append {language : Language} {above : Text}
    (settled : LeavesNoBlock language above) (below : Text) :
    tokenize (above ++ '\n' :: below) language =
      tokenize above language ++ (tokenize below language).map (·.movedDown (lineCount above)) := by
  have joined := tokensFrom_append language 1 (lines (stripComments above language))
    (lines (stripComments below language))
  rw [← lines_stripComments_append settled, length_lines_stripComments, tokensFrom_add] at joined
  exact joined

theorem lineLevelFindings_append {language : Language} {above : Text} (blocks : HasBlocks language)
    (settled : LeavesNoBlock language above) (below : Text) :
    lineLevelFindings (above ++ '\n' :: below) language =
      lineLevelFindings above language ++
        (lineLevelFindings below language).map (·.movedDown (lineCount above)) := by
  unfold lineLevelFindings
  cases known : Lint.rules? language with
  | none => rfl
  | some rules =>
    have untracked := Lint.tracksIndentation_of_hasBlocks blocks known
    simp only [Lint.RuleSet.lineFindings, lines_stripComments_append settled,
      Lint.RuleSet.lintLines_append, rules.indentationAfter_of_untracked untracked,
      length_lines_stripComments, Lint.RuleSet.lintLines_add _ _ _ (Nat.le_refl 1)]

theorem tokens_findings_append {language : Language} {above : Text}
    (settled : LeavesNoBlock language above) (below : Text) :
    tokenize (above ++ '\n' :: below) language =
        tokenize above language ++ (tokenize below language).map (·.movedDown (lineCount above)) ∧
      (HasBlocks language →
        lineLevelFindings (above ++ '\n' :: below) language =
          lineLevelFindings above language ++
            (lineLevelFindings below language).map (·.movedDown (lineCount above))) ∧
      ∀ source, lint source language =
        lineLevelFindings source language ++ fileLevelFindings source language :=
  ⟨tokenize_append settled below, fun blocks => lineLevelFindings_append blocks settled below,
    fun source => lint_eq_append source language⟩

def counterText : Text := "/* see // *\n*/ int n = 0 // rows */".toList

def unfinishedText : Text := "n++;\nreturn n /* all".toList

theorem tokens_findings_counterText :
    LeavesNoBlock .cpp counterText ∧ HasBlocks .cpp ∧
      (tokenize (counterText ++ '\n' :: unfinishedText) .cpp).map (·.line) =
        [2, 2, 2, 2, 3, 3, 3, 3, 4, 4, 4, 4, 4] ∧
      (lineLevelFindings (counterText ++ '\n' :: unfinishedText) .cpp).map (·.line) = [2, 4] := by
  have settled : LeavesNoBlock .cpp counterText := fun _ => by decide
  obtain ⟨tokens, findings, _⟩ := tokens_findings_append settled unfinishedText
  refine ⟨settled, .inl rfl, ?_, ?_⟩
  · rw [tokens]
    decide
  · rw [findings (.inl rfl)]
    decide

-- A block that is opened above is closed below, and hides what stands between.
example : tokenize "/*\nn*/".toList .cpp = [] ∧ tokenize "n*/".toList .cpp ≠ [] := by decide

end SnippetGauge
