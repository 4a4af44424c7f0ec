import Mathlib.Data.List.Nodup
import SnippetGauge.Proofs.HeaderComment
import SnippetGauge.Proofs.TrackedLines

set_option autoImplicit false

namespace SnippetGauge

open Text

theorem startsWith_iff {start text : Text} : startsWith start text = true ↔ start <+: text := by
  rw [startsWith, Option.isSome_iff_exists]
  constructor
  next =>
    rintro ⟨rest, found⟩
    exact ⟨rest, (dropPrefix?_eq_some_iff.mp found).symm⟩
  next =>
    rintro ⟨rest, rfl⟩
    exact ⟨rest, dropPrefix?_eq_some_iff.mpr rfl⟩

def indentationMessage : String := "Inconsistent indentation"

-- On one line no message comes twice, and the one on indentation comes first.
def Finding.ComesBefore (earlier later : Finding) : Prop :=
  earlier.line < later.line ∨
    earlier.line = later.line ∧ earlier.message ≠ later.message ∧
      later.message ≠ indentationMessage

namespace Lint

def lineChecks (language : Language) : List LineCheck := (rules? language).elim [] (·.lineChecks)

def fileChecks (language : Language) : List FileCheck := (rules? language).elim [] (·.fileChecks)

def skips (language : Language) : List String := (rules? language).elim [] (·.skips)

def FileCheck.Tells (check : FileCheck) (message : String) : Prop :=
  ∀ code, ∀ advice ∈ check.advise code, advice.message = message

theorem FileCheck.tells_when (applies : Text → Bool) (advice : Advice) :
    (FileCheck.when applies advice).Tells advice.message := by
  intro code given found
  cases holds : applies code with
  | false => simp [FileCheck.when, holds] at found
  | true =>
    obtain rfl : advice = given := by simpa [FileCheck.when, holds] using found
    rfl

theorem Java.tells_classNameAdvice :
    (FileCheck.mk Java.classNameAdvice).Tells "Java is case-sensitive with class names" := by
  intro code given found
  cases named : Java.publicClassName? code with
  | none => simp [Java.classNameAdvice, named] at found
  | some name =>
    simp only [Java.classNameAdvice, named] at found
    split at found
    next =>
      rw [Option.mem_def, Option.some.injEq] at found
      exact found ▸ rfl
    next => simp at found

namespace RuleSet

def lineMessages (rules : RuleSet) : List String := rules.lineChecks.map (·.advice.message)

structure Worded (rules : RuleSet) (fileMessages : List String) : Prop where
  tells : List.Forall₂ FileCheck.Tells rules.fileChecks fileMessages
  distinct : (indentationMessage :: (rules.lineMessages ++ fileMessages)).Nodup

variable {rules : RuleSet} {fileMessages : List String}

theorem Worded.lineDistinct (worded : rules.Worded fileMessages) :
    (indentationMessage :: rules.lineMessages).Nodup := by
  apply List.Nodup.sublist _ worded.distinct
  exact (List.sublist_append_left _ _).cons_cons _

theorem skipsLine_eq_false_iff {line : Text} :
    rules.skipsLine line = false ↔
      line ≠ [] ∧ ∀ skip ∈ rules.skips, ¬ skip.toList <+: line := by
  simp [skipsLine, startsWithAny, ← startsWith_iff]

theorem pairwise_checkLine (distinct : (indentationMessage :: rules.lineMessages).Nodup)
    (number : Nat) (line : Text) :
    (rules.checkLine number line).Pairwise Finding.ComesBefore := by
  obtain ⟨other, distinct⟩ := List.nodup_cons.mp distinct
  rw [checkLine, List.pairwise_map]
  have messages := (List.pairwise_map.mp distinct).filter (·.applies line)
  apply messages.imp_of_mem
  intro earlier later _ listed differ
  refine .inr ⟨rfl, differ, fun same => other ?_⟩
  rw [← same]
  exact List.mem_map_of_mem (List.mem_of_mem_filter listed)

theorem exists_check_of_mem_checkLine {number : Nat} {line : Text} {finding : Finding}
    (found : finding ∈ rules.checkLine number line) :
    ∃ check ∈ rules.lineChecks, check.applies line = true ∧
      finding = check.advice.atLine number := by
  obtain ⟨check, listed, rfl⟩ := List.mem_map.mp found
  exact ⟨check, (List.mem_filter.mp listed).1, (List.mem_filter.mp listed).2, rfl⟩

-- What one line adds, and all that may be in it.
def findingsOn (rules : RuleSet) (state : Indentation) (number : Nat) (line : Text) :
    List Finding :=
  (rules.trackLine state number line).1 ++ rules.checkLine number (trim line)

theorem line_of_mem_findingsOn {state : Indentation} {number : Nat} {line : Text}
    {finding : Finding} (found : finding ∈ rules.findingsOn state number line) :
    finding.line = number ∧
      (finding ∈ rules.checkLine number (trim line) ∨
        finding.message = indentationMessage ∧ rules.tracksIndentation = true) := by
  rcases List.mem_append.mp found with placed | checked
  next =>
    rcases rules.trackLine_fst state number line with quiet | ⟨tracked, expected, width, one⟩
    next => simp [quiet] at placed
    next =>
      rw [one, List.mem_singleton] at placed
      subst placed
      exact ⟨rfl, .inr ⟨rfl, tracked⟩⟩
  next =>
    obtain ⟨check, _, _, rfl⟩ := exists_check_of_mem_checkLine checked
    exact ⟨rfl, .inl checked⟩

theorem pairwise_findingsOn (distinct : (indentationMessage :: rules.lineMessages).Nodup)
    (state : Indentation) (number : Nat) (line : Text) :
    (rules.findingsOn state number line).Pairwise Finding.ComesBefore := by
  have checks := pairwise_checkLine distinct number (trim line)
  rcases rules.trackLine_fst state number line with quiet | ⟨_, expected, width, one⟩
  next => simpa [findingsOn, quiet] using checks
  next =>
    rw [findingsOn, one, List.singleton_append, List.pairwise_cons]
    refine ⟨?_, checks⟩
    intro finding found
    obtain ⟨check, listed, _, rfl⟩ := exists_check_of_mem_checkLine found
    have other : check.advice.message ≠ indentationMessage := by
      intro same
      apply (List.nodup_cons.mp distinct).1
      exact same ▸ List.mem_map_of_mem listed
    exact .inr ⟨rfl, Ne.symm other, other⟩

theorem lintLines_cons (state : Indentation) (number : Nat) (line : Text) (later : List Text) :
    rules.lintLines state number (line :: later) =
      if rules.skipsLine (trim line) then rules.lintLines state (number + 1) later
      else rules.findingsOn state number line ++
        rules.lintLines (rules.trackLine state number line).2 (number + 1) later := rfl

theorem exists_line_of_mem_lintLines {state : Indentation} {number : Nat} {source : List Text}
    {finding : Finding} (found : finding ∈ rules.lintLines state number source) :
    ∃ i line, source[i]? = some line ∧ finding.line = number + i ∧
      rules.skipsLine (trim line) = false ∧
      (finding ∈ rules.checkLine (number + i) (trim line) ∨
        finding.message = indentationMessage ∧ rules.tracksIndentation = true) := by
  induction source generalizing state number with
  | nil => simp [lintLines] at found
  | cons line later ih =>
    have below {state : Indentation} (found : finding ∈ rules.lintLines state (number + 1) later) :
        ∃ i other, (line :: later)[i]? = some other ∧ finding.line = number + i ∧
          rules.skipsLine (trim other) = false ∧
          (finding ∈ rules.checkLine (number + i) (trim other) ∨
            finding.message = indentationMessage ∧ rules.tracksIndentation = true) := by
      obtain ⟨i, other, stands, facts⟩ := ih found
      rw [Nat.add_assoc, Nat.add_comm 1] at facts
      exact ⟨i + 1, other, stands, facts⟩
    rw [lintLines_cons] at found
    cases skipped : rules.skipsLine (trim line) with
    | true =>
      rw [skipped, if_pos rfl] at found
      exact below found
    | false =>
      rw [skipped, if_neg Bool.false_ne_true, List.mem_append] at found
      rcases found with here | later
      next =>
        obtain ⟨same, reason⟩ := line_of_mem_findingsOn here
        exact ⟨0, line, rfl, same, skipped, reason⟩
      next => exact below later

theorem mem_lintLines_of_mem_checkLine {state : Indentation} {number i : Nat} {source : List Text}
    {line : Text} {finding : Finding} (stands : source[i]? = some line)
    (kept : rules.skipsLine (trim line) = false)
    (found : finding ∈ rules.checkLine (number + i) (trim line)) :
    finding ∈ rules.lintLines state number source := by
  induction source generalizing state number i with
  | nil => simp at stands
  | cons first later ih =>
    rw [lintLines_cons]
    cases i with
    | zero =>
      obtain rfl : first = line := by simpa using stands
      rw [kept, if_neg Bool.false_ne_true]
      exact List.mem_append_left _ (List.mem_append_right _ found)
    | succ i =>
      rw [← Nat.add_assoc, Nat.add_right_comm] at found
      split
      next => exact ih stands found
      next => exact List.mem_append_right _ (ih stands found)

theorem pairwise_lintLines (distinct : (indentationMessage :: rules.lineMessages).Nodup)
    (state : Indentation) (number : Nat) (source : List Text) :
    (rules.lintLines state number source).Pairwise Finding.ComesBefore := by
  induction source generalizing state number with
  | nil => exact .nil
  | cons line later ih =>
    rw [lintLines_cons]
    split
    next => exact ih _ _
    next =>
      rw [List.pairwise_append]
      refine ⟨pairwise_findingsOn distinct state number line, ih _ _, ?_⟩
      intro earlier here finding below
      obtain ⟨i, _, _, further, _⟩ := exists_line_of_mem_lintLines below
      have same := (line_of_mem_findingsOn here).1
      exact .inl (by omega)

theorem message_of_mem_lintLines {state : Indentation} {number : Nat} {source : List Text}
    {finding : Finding} (found : finding ∈ rules.lintLines state number source) :
    finding.message ∈ indentationMessage :: rules.lineMessages := by
  obtain ⟨i, line, _, _, _, checked | placed⟩ := exists_line_of_mem_lintLines found
  next =>
    obtain ⟨check, listed, _, rfl⟩ := exists_check_of_mem_checkLine checked
    exact List.mem_cons_of_mem _ (List.mem_map_of_mem listed)
  next => exact placed.1 ▸ List.mem_cons_self

theorem Worded.fileMessages_sublist (worded : rules.Worded fileMessages) (code : Text) :
    ((rules.fileFindings code).map (·.message)).Sublist fileMessages := by
  rw [fileFindings, List.map_map]
  have tells := worded.tells
  clear worded
  generalize rules.fileChecks = checks at tells
  induction tells with
  | nil => exact .slnil
  | @cons check message checks messages tells _ ih =>
    cases advised : check.advise code with
    | none => simpa [List.filterMap_cons, advised] using ih.cons message
    | some advice =>
      have same : advice.message = message := tells code advice advised
      simpa [List.filterMap_cons, advised, Advice.atLine, same] using ih.cons_cons message

theorem Worded.nodup_findings (worded : rules.Worded fileMessages) (code : Text) :
    (rules.lineFindings code ++ rules.fileFindings code).Nodup := by
  have byFile := worded.fileMessages_sublist code
  have distinct := worded.distinct
  rw [← List.cons_append, List.nodup_append] at distinct
  obtain ⟨_, fileDistinct, apart⟩ := distinct
  rw [List.nodup_append]
  refine ⟨?_, List.Nodup.of_map _ (List.Nodup.sublist byFile fileDistinct), ?_⟩
  next =>
    apply (pairwise_lintLines worded.lineDistinct .start 1 (lines code)).imp
    rintro earlier _ (below | ⟨_, differ, _⟩) rfl
    next => exact Nat.lt_irrefl _ below
    next => exact differ rfl
  next =>
    intro finding ofLine other ofFile same
    have spoken := byFile.subset (List.mem_map_of_mem ofFile)
    exact apart _ (message_of_mem_lintLines ofLine) _ spoken (congrArg Finding.message same)

end RuleSet

theorem exists_worded {language : Language} {rules : RuleSet}
    (known : rules? language = some rules) : ∃ fileMessages, rules.Worded fileMessages := by
  cases language with
  | cpp =>
    obtain rfl := Option.some.inj known
    have tells := FileCheck.tells_when
    exact ⟨_, .cons (tells _ _) (.cons (tells _ _) (.cons (tells _ _) .nil)), by decide⟩
  | java =>
    obtain rfl := Option.some.inj known
    have tells := FileCheck.tells_when
    exact ⟨_, .cons Java.tells_classNameAdvice (.cons (tells _ _) .nil), by decide⟩
  | python =>
    obtain rfl := Option.some.inj known
    exact ⟨[], .nil, by decide⟩
  | unidentified => simp [rules?] at known

def Flags (language : Language) (check : LineCheck) (line : Text) : Prop :=
  trim line ≠ [] ∧ (∀ skip ∈ skips language, ¬ skip.toList <+: trim line) ∧
    check.applies (trim line) = true

structure Account (source : Text) (language : Language) (byLine byFile : List Finding) : Prop where
  ascending : byLine.Pairwise (·.line ≤ ·.line)
  once : (byLine.map fun finding => (finding.line, finding.message)).Nodup
  indentationFirst : byLine.Pairwise fun earlier later =>
    later.message = indentationMessage → earlier.line < later.line
  inTableOrder : byFile = (fileChecks language).filterMap fun check =>
    (check.advise (stripComments source language)).map (·.atLine 1)
  nodup : (byLine ++ byFile).Nodup
  onLines : ∀ finding ∈ byLine ++ byFile, 1 ≤ finding.line ∧ finding.line ≤ lineCount source
  flagged : ∀ check ∈ lineChecks language, ∀ number,
    (∃ finding ∈ byLine ++ byFile,
        finding.line = number ∧ finding.message = check.advice.message) ↔
      1 ≤ number ∧ ∃ line,
        (lines (stripComments source language))[number - 1]? = some line ∧
          Flags language check line
  explained : ∀ finding ∈ byLine,
    finding.message = indentationMessage ∧ language = .python ∨
      ∃ check ∈ lineChecks language, finding = check.advice.atLine finding.line

section

variable {language : Language} {rules : RuleSet} {fileMessages : List String}

theorem flagged_iff (known : rules? language = some rules) (worded : rules.Worded fileMessages)
    (code : Text) {check : LineCheck} (listed : check ∈ rules.lineChecks) (number : Nat) :
    (∃ finding ∈ rules.lineFindings code ++ rules.fileFindings code,
        finding.line = number ∧ finding.message = check.advice.message) ↔
      1 ≤ number ∧ ∃ line, (lines code)[number - 1]? = some line ∧ Flags language check line := by
  have distinct := worded.distinct
  rw [List.nodup_cons, List.nodup_append] at distinct
  obtain ⟨other, lineDistinct, _, apart⟩ := distinct
  have spoken : check.advice.message ∈ rules.lineMessages := List.mem_map_of_mem listed
  have kept (line : Text) : rules.skipsLine (trim line) = false ∧
      check.applies (trim line) = true ↔ Flags language check line := by
    rw [RuleSet.skipsLine_eq_false_iff, Flags, skips, known, and_assoc]
    rfl
  constructor
  next =>
    rintro ⟨finding, found, rfl, same⟩
    rcases List.mem_append.mp found with ofLine | ofFile
    next =>
      obtain ⟨i, line, stands, numbered, looked, checked | placed⟩ :=
        RuleSet.exists_line_of_mem_lintLines ofLine
      next =>
        obtain ⟨twin, twinListed, applies, rfl⟩ := RuleSet.exists_check_of_mem_checkLine checked
        obtain rfl := List.inj_on_of_nodup_map lineDistinct twinListed listed same
        have before : (twin.advice.atLine (1 + i)).line - 1 = i := Nat.add_sub_cancel_left 1 i
        rw [before]
        exact ⟨Nat.le_add_right 1 i, line, stands, (kept line).mp ⟨looked, applies⟩⟩
      next =>
        -- The message on indentation is not the message of a check.
        rw [← same, placed.1] at spoken
        exact absurd (List.mem_append_left _ spoken) other
    next =>
      have ofTable :=
        (worded.fileMessages_sublist code).subset (List.mem_map_of_mem ofFile)
      exact absurd same.symm (apart _ spoken _ ofTable)
  next =>
    rintro ⟨positive, line, stands, flags⟩
    obtain ⟨looked, applies⟩ := (kept line).mpr flags
    refine ⟨check.advice.atLine number, ?_, rfl, rfl⟩
    have numbered : 1 + (number - 1) = number := by omega
    apply List.mem_append_left
    apply RuleSet.mem_lintLines_of_mem_checkLine stands looked
    rw [numbered]
    exact List.mem_map_of_mem (List.mem_filter.mpr ⟨listed, applies⟩)

theorem account_of_known (known : rules? language = some rules) (source : Text) :
    Account source language (rules.lineFindings (stripComments source language))
      (rules.fileFindings (stripComments source language)) := by
  obtain ⟨fileMessages, worded⟩ := exists_worded known
  have ordered := RuleSet.pairwise_lintLines worded.lineDistinct .start 1
    (lines (stripComments source language))
  have height : (lines (stripComments source language)).length = lineCount source :=
    (stripComments_aligned source language).lineCount_eq
  constructor
  case ascending => exact ordered.imp fun before => before.elim Nat.le_of_lt (·.1.le)
  case once =>
    rw [List.Nodup, List.pairwise_map]
    apply ordered.imp
    rintro earlier later (below | ⟨_, differ, _⟩) same
    next => exact Nat.ne_of_lt below (congrArg Prod.fst same)
    next => exact differ (congrArg Prod.snd same)
  case indentationFirst =>
    exact ordered.imp fun before placed => before.resolve_right fun here => here.2.2 placed
  case inTableOrder =>
    rw [fileChecks, known, Option.elim_some, ← List.map_filterMap]
    rfl
  case nodup => exact worded.nodup_findings _
  case onLines =>
    intro finding found
    rcases List.mem_append.mp found with ofLine | ofFile
    next =>
      obtain ⟨i, line, stands, numbered, _⟩ := RuleSet.exists_line_of_mem_lintLines ofLine
      have within := (List.getElem?_eq_some_iff.mp stands).1
      omega
    next =>
      obtain ⟨advice, _, rfl⟩ := List.mem_map.mp ofFile
      exact ⟨Nat.le_refl 1, by rw [lineCount_eq_count]; exact Nat.le_add_left 1 _⟩
  case flagged =>
    intro check listed number
    rw [lineChecks, known] at listed
    exact flagged_iff known worded _ listed number
  case explained =>
    intro finding found
    obtain ⟨i, line, _, numbered, _, checked | placed⟩ := RuleSet.exists_line_of_mem_lintLines found
    next =>
      obtain ⟨check, listed, _, rfl⟩ := RuleSet.exists_check_of_mem_checkLine checked
      rw [lineChecks, known]
      exact .inr ⟨check, listed, rfl⟩
    next =>
      refine .inl ⟨placed.1, ?_⟩
      cases language with
      | python => rfl
      | cpp | java =>
        obtain rfl := Option.some.inj known
        exact absurd placed.2 Bool.false_ne_true
      | unidentified => simp [rules?] at known

end

end Lint

/-- First the findings of the lines, in their order, then those of the file; on each line exactly
the checks that apply to it are heard, each once. -/
theorem lint_account (source : Text) (language : Language) :
    lint source language =
        lineLevelFindings source language ++ fileLevelFindings source language ∧
      Lint.Account source language (lineLevelFindings source language)
        (fileLevelFindings source language) := by
  refine ⟨lint_eq_append source language, ?_⟩
  unfold lineLevelFindings fileLevelFindings
  cases known : Lint.rules? language with
  | some rules => exact Lint.account_of_known known source
  | none => constructor <;> simp [Lint.fileChecks, Lint.lineChecks, known]

example : (lint "if n:\n      else print n".toList .python).map (·.message) =
    ["Inconsistent indentation", "Missing colon at the end of statement",
      "Incorrect print syntax (Python 3)"] := by decide

end SnippetGauge
