import SnippetGauge.Proofs.BlockComments
import SnippetGauge.Proofs.TokenLines

set_option autoImplicit false

namespace SnippetGauge

open Text

/-- The text is the code with whole block comments before, between and behind its characters. -/
inductive WithBlocks : (code text : Text) → Prop
  | nil : WithBlocks [] []
  | keep (c : Char) {code text : Text} : WithBlocks code text → WithBlocks (c :: code) (c :: text)
  | block {body code text : Text} : closesBlock body = false → WithBlocks code text →
      WithBlocks code ('/' :: '*' :: (body ++ '*' :: '/' :: text))

namespace WithBlocks

variable {code text before after : Text}

theorem refl (code : Text) : WithBlocks code code := by
  induction code with
  | nil => exact .nil
  | cons c code ih => exact .keep c ih

theorem split (h : WithBlocks (before ++ after) text) :
    ∃ first second, text = first ++ second ∧ WithBlocks before first ∧ WithBlocks after second := by
  generalize whole : before ++ after = code at h
  induction h generalizing before with
  | nil =>
    obtain ⟨rfl, rfl⟩ := List.append_eq_nil_iff.mp whole
    exact ⟨[], [], rfl, .nil, .nil⟩
  | @keep c code text h ih =>
    cases before with
    | nil =>
      subst whole
      exact ⟨[], c :: text, rfl, .nil, h.keep c⟩
    | cons d before =>
      obtain ⟨rfl, rest⟩ := List.cons.inj whole
      obtain ⟨first, second, rfl, front, back⟩ := ih rest
      exact ⟨d :: first, second, rfl, front.keep d, back⟩
  | @block body code text unclosed h ih =>
    obtain ⟨first, second, rfl, front, back⟩ := ih whole
    exact ⟨_, second, by simp, front.block unclosed, back⟩

end WithBlocks

def SpelledIn (value line : Text) : Prop := ∃ place, place <:+: line ∧ WithBlocks value place

section

variable {value line inner out : Text} {c : Char} {output source : Text} {inside : Bool}

theorem SpelledIn.of_isInfix (within : value <:+: line) : SpelledIn value line :=
  ⟨value, within, .refl value⟩

theorem SpelledIn.part (h : SpelledIn value line) (within : inner <:+: value) :
    SpelledIn inner line := by
  obtain ⟨place, stands, spelled⟩ := h
  obtain ⟨before, after, rfl⟩ := within
  obtain ⟨front, _, rfl, spelled, _⟩ := spelled.split
  obtain ⟨start, middle, rfl, _, spelled⟩ := spelled.split
  exact ⟨middle, (List.infix_append start middle _).trans stands, spelled⟩

def StartsSpelled (out line : Text) : Prop := ∃ place, place <+: line ∧ WithBlocks out place

/-- A line that starts `inside` of a block leaves nothing before the block is closed. -/
def HeadSpelled (inside : Bool) (out line : Text) : Prop :=
  if inside then
    out = [] ∨ ∃ body rest, line = body ++ '*' :: '/' :: rest ∧ closesBlock body = false ∧
      StartsSpelled out rest
  else StartsSpelled out line

theorem StartsSpelled.nil (line : Text) : StartsSpelled [] line := ⟨[], List.nil_prefix, .nil⟩

theorem StartsSpelled.keep (h : StartsSpelled out line) (c : Char) :
    StartsSpelled (c :: out) (c :: line) := by
  obtain ⟨place, starts, spelled⟩ := h
  exact ⟨c :: place, (List.prefix_cons_inj c).mpr starts, spelled.keep c⟩

theorem HeadSpelled.beginBlock (h : HeadSpelled true out line) :
    StartsSpelled out ('/' :: '*' :: line) := by
  rcases h with rfl | ⟨body, rest, rfl, unclosed, place, ⟨behind, rfl⟩, spelled⟩
  · exact .nil _
  · exact ⟨_, ⟨behind, by simp⟩, spelled.block unclosed⟩

theorem HeadSpelled.skip (h : HeadSpelled true out line)
    (other : ∀ rest, c = '*' → line = '/' :: rest → False) : HeadSpelled true out (c :: line) := by
  rcases h with rfl | ⟨body, rest, rfl, unclosed, starts⟩
  · exact .inl rfl
  · refine .inr ⟨c :: body, rest, rfl, ?_, starts⟩
    rw [closesBlock]
    · exact unclosed
    · rintro more star rfl
      exact other _ star rfl

theorem HeadSpelled.spelledIn (h : HeadSpelled inside out line) : SpelledIn out line := by
  cases inside with
  | false =>
    obtain ⟨place, starts, spelled⟩ := h
    exact ⟨place, starts.isInfix, spelled⟩
  | true =>
    rcases h with rfl | ⟨body, rest, rfl, unclosed, place, starts, spelled⟩
    · exact ⟨[], List.nil_infix, .nil⟩
    · have stands : rest <:+ body ++ '*' :: '/' :: rest := ⟨body ++ ['*', '/'], by simp⟩
      exact ⟨place, starts.isInfix.trans stands.isInfix, spelled⟩

theorem headSpelled_nil (inside : Bool) : HeadSpelled inside [] [] := by
  cases inside with
  | false => exact .nil []
  | true => exact .inl rfl

def LinesSpelled (inside : Bool) (output source : Text) : Prop :=
  ∃ out outs line rest, lines output = out :: outs ∧ lines source = line :: rest ∧
    HeadSpelled inside out line ∧ List.Forall₂ SpelledIn outs rest

namespace LinesSpelled

theorem refl (source : Text) : LinesSpelled false source source := by
  obtain ⟨line, later, h⟩ := exists_lines_eq source
  refine ⟨line, later, line, later, h, h, ⟨line, List.prefix_rfl, .refl line⟩, ?_⟩
  exact List.forall₂_same.mpr fun other _ => .of_isInfix List.infix_rfl

theorem keepBreak (h : LinesSpelled inside output source) :
    LinesSpelled inside ('\n' :: output) ('\n' :: source) := by
  obtain ⟨out, outs, line, rest, short, long, first, later⟩ := h
  refine ⟨[], out :: outs, [], line :: rest, ?_, ?_, headSpelled_nil inside, ?_⟩
  · rw [lines_break, short]
  · rw [lines_break, long]
  · exact .cons first.spelledIn later

theorem keep (c : Char) (h : LinesSpelled false output source) :
    LinesSpelled false (c :: output) (c :: source) := by
  by_cases same : c = '\n'
  · subst same
    exact h.keepBreak
  · obtain ⟨out, outs, line, rest, short, long, first, later⟩ := h
    exact ⟨_, outs, _, rest, lines_cons_of_ne same short, lines_cons_of_ne same long,
      StartsSpelled.keep first c, later⟩

theorem endBlock (h : LinesSpelled false output source) :
    LinesSpelled true output ('*' :: '/' :: source) := by
  obtain ⟨out, outs, line, rest, short, long, first, later⟩ := h
  have slash := lines_cons_of_ne (by decide : '/' ≠ '\n') long
  exact ⟨out, outs, _, rest, short, lines_cons_of_ne (by decide) slash,
    .inr ⟨[], line, rfl, rfl, first⟩, later⟩

theorem skip {c : Char} (single : c ≠ '\n')
    (other : ∀ rest, c = '*' → source = '/' :: rest → False) (h : LinesSpelled true output source) :
    LinesSpelled true output (c :: source) := by
  obtain ⟨out, outs, line, rest, short, long, first, later⟩ := h
  refine ⟨out, outs, c :: line, rest, short, lines_cons_of_ne single long, first.skip ?_, later⟩
  rintro tail star rfl
  obtain ⟨more, whole⟩ := prefix_of_lines_eq long
  exact other (tail ++ more) star whole.symm

theorem beginBlock (h : LinesSpelled true output source) :
    LinesSpelled false output ('/' :: '*' :: source) := by
  obtain ⟨out, outs, line, rest, short, long, first, later⟩ := h
  have star := lines_cons_of_ne (by decide : '*' ≠ '\n') long
  exact ⟨out, outs, _, rest, short, lines_cons_of_ne (by decide) star, first.beginBlock, later⟩

theorem forall₂ (h : LinesSpelled inside output source) :
    List.Forall₂ SpelledIn (lines output) (lines source) := by
  obtain ⟨out, outs, line, rest, short, long, first, later⟩ := h
  rw [short, long]
  exact .cons first.spelledIn later

end LinesSpelled

theorem eraseBlocksFrom_linesSpelled (inside : Bool) (source : Text) :
    LinesSpelled inside (eraseBlocksFrom inside source) source := by
  fun_induction eraseBlocksFrom inside source with
  | case1 inside => exact ⟨[], [], [], [], rfl, rfl, headSpelled_nil inside, .nil⟩
  | case2 rest ih => exact ih.endBlock
  | case3 rest ih => exact ih.keepBreak
  | case4 c rest other single ih => exact ih.skip single other
  | case5 rest closes ih => exact ih.beginBlock
  | case6 rest closes => exact .refl _
  | case7 c rest other ih => exact ih.keep c

theorem stripSlashComments_spelled (source : Text) :
    List.Forall₂ SpelledIn (lines (stripSlashComments source)) (lines source) := by
  unfold stripSlashComments
  rw [lines_mapLines_of_sublist beforeSlashes_sublist, List.forall₂_map_left_iff]
  apply (eraseBlocksFrom_linesSpelled false source).forall₂.imp
  intro out line spelled
  exact spelled.part (beforeSlashes_isPrefix out).isInfix

theorem stripHashComments_isInfix (source : Text) :
    List.Forall₂ (· <:+: ·) (lines (stripHashComments source)) (lines source) := by
  have shorter (line : Text) : beforeHash line <+: line := List.takeWhile_prefix _
  unfold stripHashComments
  rw [lines_mapLines_of_sublist fun line => (shorter line).sublist, List.forall₂_map_left_iff]
  exact List.forall₂_same.mpr fun line _ => (shorter line).isInfix

theorem stripComments_spelled (source : Text) (language : Language) :
    List.Forall₂ (fun out line => SpelledIn out line ∧ (¬ HasBlocks language → out <:+: line))
      (lines (stripComments source language)) (lines source) := by
  cases language with
  | cpp | java =>
    apply (stripSlashComments_spelled source).imp
    exact fun out line spelled => ⟨spelled, fun other => absurd (by simp [HasBlocks]) other⟩
  | python =>
    apply (stripHashComments_isInfix source).imp
    exact fun out line stands => ⟨.of_isInfix stands, fun _ => stands⟩
  | unidentified =>
    exact List.forall₂_same.mpr fun line _ => ⟨.of_isInfix List.infix_rfl, fun _ => List.infix_rfl⟩

theorem mem_consWord {word piece : Text} {later : List Text} (h : piece ∈ consWord word later) :
    piece = word ∨ piece ∈ later := by
  unfold consWord at h
  split at h
  · exact .inr h
  · exact List.mem_cons.mp h

theorem splitPieces_infix (line : Text) :
    (splitPieces line).1 <+: line ∧ ∀ piece ∈ (splitPieces line).2, piece <:+: line := by
  induction line with
  | nil => simp [splitPieces]
  | cons c rest ih =>
    obtain ⟨first, later⟩ := ih
    have inner {piece : Text} (h : piece ∈ consWord (splitPieces rest).1 (splitPieces rest).2) :
        piece <:+: c :: rest := by
      rcases mem_consWord h with rfl | h
      · exact List.infix_cons first.isInfix
      · exact List.infix_cons (later piece h)
    simp only [splitPieces]
    split
    · exact ⟨List.nil_prefix, fun piece => inner⟩
    · split
      · refine ⟨List.nil_prefix, fun piece h => ?_⟩
        rcases List.mem_cons.mp h with rfl | h
        · exact ⟨[], rest, rfl⟩
        · exact inner h
      · exact ⟨(List.prefix_cons_inj c).mpr first, fun piece h => List.infix_cons (later piece h)⟩

theorem infix_of_mem_pieces {piece line : Text} (h : piece ∈ pieces line) : piece <:+: line := by
  obtain ⟨first, later⟩ := splitPieces_infix line
  rcases mem_consWord h with rfl | h
  · exact first.isInfix
  · exact later piece h

theorem exists_line_of_mem_tokenize {source : Text} {language : Language} {token : Token}
    (h : token ∈ tokenize source language) :
    1 ≤ token.line ∧ ∃ line, (lines (stripComments source language))[token.line - 1]? = some line ∧
      token.value <:+: line := by
  rw [tokenize, List.mem_flatMap] at h
  obtain ⟨⟨line, number⟩, stands, h⟩ := h
  obtain ⟨positive, found⟩ := List.mk_mem_zipIdx_iff_le_and_getElem?_sub.mp stands
  obtain ⟨piece, among, rfl⟩ := List.mem_map.mp h
  exact ⟨positive, line, found, infix_of_mem_pieces among⟩

theorem exists_getElem?_of_forall₂ {R : Text → Text → Prop} {outs originals : List Text}
    (h : List.Forall₂ R outs originals) {i : Nat} (found : outs[i]? = some out) :
    ∃ line, originals[i]? = some line ∧ R out line := by
  obtain ⟨bound, rfl⟩ := List.getElem?_eq_some_iff.mp found
  have within : i < originals.length := h.length_eq ▸ bound
  exact ⟨originals[i], List.getElem?_eq_getElem within, h.get bound within⟩

theorem tokenize_spelled {source : Text} {language : Language} {token : Token}
    (h : token ∈ tokenize source language) :
    1 ≤ token.line ∧ ∃ line, (lines source)[token.line - 1]? = some line ∧
      SpelledIn token.value line ∧ (¬ HasBlocks language → token.value <:+: line) := by
  obtain ⟨positive, out, found, stands⟩ := exists_line_of_mem_tokenize h
  obtain ⟨line, original, spelled, whole⟩ :=
    exists_getElem?_of_forall₂ (stripComments_spelled source language) found
  exact ⟨positive, line, original, spelled.part stands, fun plain => stands.trans (whole plain)⟩

end

def parted : Text := "int a/* x */b;".toList

def joinedToken : Token := ⟨"ab".toList, 1, .identifier⟩

theorem joinedToken_mem : joinedToken ∈ tokenize parted .cpp := by decide

theorem joinedToken_spelled : joinedToken ∈ tokenize parted .cpp ∧
    ∃ line, (lines parted)[0]? = some line ∧ SpelledIn joinedToken.value line :=
  have ⟨_, line, found, spelled, _⟩ := tokenize_spelled joinedToken_mem
  ⟨joinedToken_mem, line, found, spelled⟩

theorem not_tokenize_infix :
    ¬ ∀ (source : Text) (language : Language), ∀ token ∈ tokenize source language,
      ∃ line, (lines source)[token.line - 1]? = some line ∧ token.value <:+: line := by
  intro stands
  obtain ⟨line, found, inside⟩ := stands parted .cpp joinedToken joinedToken_mem
  have only : (lines parted)[joinedToken.line - 1]? = some parted := by decide
  obtain rfl : parted = line := Option.some.inj (only.symm.trans found)
  exact absurd inside (by decide)

end SnippetGauge
