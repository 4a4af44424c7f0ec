import Mathlib.Data.Bool.AllAny
import SnippetGauge.Proofs.KeywordFindings
import SnippetGauge.Proofs.TokenSource

set_option autoImplicit false

namespace SnippetGauge

open Text

def delimiterMarks : Text := ";\x7b\x7d()[].,".toList

def operatorMarks : Text := "<>:=+-*/%&|^!~?".toList

def splitMarks : Text := delimiterMarks ++ operatorMarks

-- A line is cut into its marks and the words between marks and white space.
inductive Cut : Text → List Text → Prop where
  | done : Cut [] []
  | blank {c : Char} {rest : Text} {parts : List Text} (white : isBlank c = true)
      (later : Cut rest parts) : Cut (c :: rest) parts
  | mark {c : Char} {rest : Text} {parts : List Text} (marks : isPunctuation c = true)
      (later : Cut rest parts) : Cut (c :: rest) ([c] :: parts)
  | word {word rest : Text} {parts : List Text} (filled : word ≠ [])
      (solid : word.all isSolid = true) (ends : ∀ c ∈ rest.head?, isSolid c = false)
      (later : Cut rest parts) : Cut (word ++ rest) (word :: parts)

section

variable {c : Char} {line rest white : Text} {parts front back : List Text}

theorem isDelimiterChar_iff : isDelimiterChar c = true ↔ c ∈ delimiterMarks := by
  rw [isDelimiterChar, List.contains_iff_mem]
  rfl

theorem isOperatorChar_iff : isOperatorChar c = true ↔ c ∈ operatorMarks := by
  have same : ['+', '-', '*', '/', '%', '=', '&', '|', '^', '<', '>', '!', '~', '?', ':'].Perm
      operatorMarks := by decide
  rw [isOperatorChar, List.contains_iff_mem, same.mem_iff]

theorem isPunctuation_iff : isPunctuation c = true ↔ c ∈ splitMarks := by
  rw [isPunctuation, Bool.or_eq_true, isDelimiterChar_iff, isOperatorChar_iff, splitMarks,
    List.mem_append]

theorem isBlank_of_isPunctuation (marks : isPunctuation c = true) : isBlank c = false := by
  have each : ∀ d ∈ splitMarks, isBlank d = false := List.all_iff_forall_prop.mp (by decide)
  exact each c (isPunctuation_iff.mp marks)

theorem splitPieces_blank (white : isBlank c = true) (rest : Text) :
    splitPieces (c :: rest) = ([], pieces rest) := by
  simp [splitPieces, white, pieces]

theorem splitPieces_mark (marks : isPunctuation c = true) (rest : Text) :
    splitPieces (c :: rest) = ([], [c] :: pieces rest) := by
  simp [splitPieces, isBlank_of_isPunctuation marks, marks, pieces]

theorem splitPieces_of_ends (ends : ∀ c ∈ line.head?, isSolid c = false) :
    splitPieces line = ([], pieces line) := by
  cases line with
  | nil => rfl
  | cons c rest =>
    have first : isSolid c = false := ends c rfl
    by_cases white : isBlank c = true
    next => simp [pieces, splitPieces_blank white, consWord]
    next =>
      have marks : isPunctuation c = true := by simpa [isSolid, white] using first
      simp [pieces, splitPieces_mark marks, consWord]

theorem cut_consWord {word : Text} (solid : word.all isSolid = true)
    (ends : ∀ c ∈ rest.head?, isSolid c = false) (cut : Cut rest parts) :
    Cut (word ++ rest) (consWord word parts) := by
  cases word with
  | nil => exact cut
  | cons c word => exact .word (List.cons_ne_nil c word) solid ends cut

theorem cut_pieces (line : Text) : Cut line (pieces line) := by
  have split : ∃ tail, line = (splitPieces line).1 ++ tail ∧
      (splitPieces line).1.all isSolid = true ∧ (∀ c ∈ tail.head?, isSolid c = false) ∧
      Cut tail (splitPieces line).2 := by
    induction line with
    | nil => exact ⟨[], rfl, rfl, by simp, .done⟩
    | cons c rest ih =>
      obtain ⟨tail, whole, solid, ends, cut⟩ := ih
      have behind : Cut rest (pieces rest) := by
        have joined := cut_consWord solid ends cut
        rwa [← whole] at joined
      by_cases white : isBlank c = true
      next =>
        rw [splitPieces_blank white]
        exact ⟨c :: rest, rfl, rfl, by simp [isSolid, white], behind.blank white⟩
      next =>
        by_cases marks : isPunctuation c = true
        next =>
          rw [splitPieces_mark marks]
          exact ⟨c :: rest, rfl, rfl, by simp [isSolid, marks], behind.mark marks⟩
        next =>
          have one : [c].all isSolid = true := by simp [isSolid, white, marks]
          rw [← List.singleton_append, splitPieces_solid one]
          refine ⟨tail, ?_, by rw [List.all_append, one, solid]; rfl, ends, cut⟩
          rw [List.append_assoc, ← whole]
  obtain ⟨tail, whole, solid, ends, cut⟩ := split
  have joined := cut_consWord solid ends cut
  rwa [← whole] at joined

theorem Cut.pieces_eq (cut : Cut line parts) : pieces line = parts := by
  induction cut with
  | done => rfl
  | blank white later ih => rw [pieces, splitPieces_blank white, ih]; rfl
  | mark marks later ih => rw [pieces, splitPieces_mark marks, ih]; rfl
  | @word word rest parts filled solid ends later ih =>
    rw [pieces, splitPieces_solid solid, splitPieces_of_ends ends, ih, List.append_nil]
    simp [consWord, filled]

theorem Cut.split (cut : Cut line (front ++ back)) :
    ∃ before after, line = before ++ after ∧ Cut before front ∧ Cut after back := by
  generalize whole : front ++ back = parts at cut
  -- The line ends its first half where the last of the `front` parts ends.
  induction cut generalizing front with
  | done =>
    obtain ⟨rfl, rfl⟩ := List.append_eq_nil_iff.mp whole
    exact ⟨[], [], rfl, .done, .done⟩
  | @blank c rest parts white later ih =>
    obtain ⟨before, after, rfl, first, second⟩ := ih whole
    exact ⟨c :: before, after, rfl, first.blank white, second⟩
  | @mark c rest parts marks later ih =>
    cases front with
    | nil =>
      subst whole
      exact ⟨[], c :: rest, rfl, .done, later.mark marks⟩
    | cons piece front =>
      obtain ⟨rfl, others⟩ := List.cons.inj whole
      obtain ⟨before, after, rfl, first, second⟩ := ih others
      exact ⟨c :: before, after, rfl, first.mark marks, second⟩
  | @word word rest parts filled solid ends later ih =>
    cases front with
    | nil =>
      subst whole
      exact ⟨[], word ++ rest, rfl, .done, .word filled solid ends later⟩
    | cons piece front =>
      obtain ⟨rfl, others⟩ := List.cons.inj whole
      obtain ⟨before, after, rfl, first, second⟩ := ih others
      have behind : ∀ c ∈ before.head?, isSolid c = false := by
        intro c starts
        exact ends c (by rw [List.head?_append, starts]; rfl)
      exact ⟨piece ++ before, after, by simp, .word filled solid behind first, second⟩

theorem Cut.append_blank (cut : Cut line parts) (blank : isBlankText white = true) :
    Cut (line ++ white) parts := by
  have starts : ∀ c ∈ white.head?, isSolid c = false := by
    intro c first
    simp [isSolid, List.all_eq_true.mp blank c (List.mem_of_mem_head? first)]
  induction cut with
  | done =>
    clear starts
    induction white with
    | nil => exact .done
    | cons c white ih =>
      obtain ⟨first, rest⟩ : isBlank c = true ∧ isBlankText white = true := by
        simpa [isBlankText] using blank
      exact .blank first (ih rest)
  | blank first later ih => exact .blank first ih
  | mark marks later ih => exact .mark marks ih
  | @word word rest parts filled solid ends later ih =>
    rw [List.append_assoc]
    refine .word filled solid (fun c first => ?_) ih
    cases rest with
    | nil => exact starts c first
    | cons d rest => exact ends c first

def IsWord (piece : Text) : Prop := piece ≠ [] ∧ piece.all isSolid = true

theorem Cut.exists_word {word : Text} (cut : Cut line (word :: parts)) (isWord : IsWord word) :
    ∃ white rest, line = white ++ word ++ rest ∧ isBlankText white = true ∧
      (∀ c ∈ rest.head?, isSolid c = false) ∧ Cut rest parts := by
  generalize whole : word :: parts = pieces at cut
  induction cut with
  | done => cases whole
  | @blank c rest pieces first later ih =>
    obtain ⟨white, tail, rfl, blank, ends, behind⟩ := ih whole
    exact ⟨c :: white, tail, rfl, by simpa [isBlankText, first] using blank, ends, behind⟩
  | @mark c rest pieces marks later ih =>
    obtain ⟨rfl, rfl⟩ := List.cons.inj whole
    have solid : isSolid c = true := by simpa using isWord.2
    simp [isSolid, marks] at solid
  | @word other rest pieces filled solid ends later ih =>
    obtain ⟨rfl, rfl⟩ := List.cons.inj whole
    exact ⟨[], rest, rfl, rfl, ends, later⟩

theorem exists_gap_of_pieces_eq {first second : Text}
    (cut : pieces line = front ++ first :: second :: back) (firstWord : IsWord first)
    (secondWord : IsWord second) :
    ∃ before gap after, line = before ++ first ++ gap ++ second ++ after ∧ gap ≠ [] ∧
      isBlankText gap = true ∧ pieces before = front ∧ pieces after = back := by
  obtain ⟨before, behind, rfl, front, rest⟩ := (cut ▸ cut_pieces line).split
  obtain ⟨white, later, rfl, blank, ends, rest⟩ := rest.exists_word firstWord
  obtain ⟨gap, after, rfl, between, _, rest⟩ := rest.exists_word secondWord
  refine ⟨before ++ white, gap, after, by simp, ?_, between, (front.append_blank blank).pieces_eq,
    rest.pieces_eq⟩
  rintro rfl
  -- Without white space the second word would go on with the first one.
  obtain ⟨c, word, rfl⟩ := List.exists_cons_of_ne_nil secondWord.1
  have solid : isSolid c = true := (List.all_eq_true.mp secondWord.2) c List.mem_cons_self
  rw [ends c rfl] at solid
  contradiction

theorem Cut.mark_or_word (cut : Cut line parts) {piece : Text} (inside : piece ∈ parts) :
    (∃ c, isPunctuation c = true ∧ piece = [c]) ∨ IsWord piece := by
  induction cut with
  | done => cases inside
  | blank white later ih => exact ih inside
  | mark marks later ih =>
    rcases List.mem_cons.mp inside with rfl | there
    next => exact .inl ⟨_, marks, rfl⟩
    next => exact ih there
  | word filled solid ends later ih =>
    rcases List.mem_cons.mp inside with rfl | there
    next => exact .inr ⟨filled, solid⟩
    next => exact ih there

end

def Language.Reserves (language : Language) (word : Text) : Prop :=
  ∃ profile, language.profile? = some profile ∧ word ∈ profile.reservedWords.map String.toList

section

variable {c : Char} {word : Text} {language : Language}

theorem isReserved_iff : isReserved language word = true ↔ language.Reserves word := by
  unfold isReserved Language.Reserves
  cases language.profile? with
  | none => simp
  | some profile => simp [Profile.reserves]

theorem isWord_iff : IsWord word ↔
    word ≠ [] ∧ ∀ c ∈ word, isBlank c = false ∧ c ∉ splitMarks := by
  simp [IsWord, isSolid, ← isPunctuation_iff]

namespace IsWord

variable (isWord : IsWord word)

include isWord

theorem dropFinalBreak_eq : dropFinalBreak word = word := by
  have last : word.getLast? ≠ some '\n' := by
    intro found
    have inside := List.mem_of_getLast? found
    have filled := (isWord_iff.mp isWord).2 _ inside
    exact absurd filled.1 (by decide)
  rw [dropFinalBreak, if_neg (by simpa using last)]

theorem not_isOperatorText : isOperatorText word = false := by
  obtain ⟨c, rest, rfl⟩ := List.exists_cons_of_ne_nil isWord.1
  have plain : c ∉ splitMarks := ((isWord_iff.mp isWord).2 c List.mem_cons_self).2
  have other : isOperatorChar c = false := by
    rw [Bool.eq_false_iff, ne_eq, isOperatorChar_iff]
    exact fun inside => plain (List.mem_append_right _ inside)
  simp [isOperatorText, other]

theorem not_isDelimiterText : isDelimiterText word = false := by
  unfold isDelimiterText
  split
  next c =>
    have plain : c ∉ splitMarks := ((isWord_iff.mp isWord).2 c List.mem_cons_self).2
    rw [Bool.eq_false_iff, ne_eq, isDelimiterChar_iff]
    exact fun inside => plain (List.mem_append_left _ inside)
  next => rfl

theorem isNumberText_eq : isNumberText word = word.all isDigit := by
  have split := List.takeWhile_append_dropWhile (p := isDigit) (l := word)
  have rest : word.drop (word.takeWhile isDigit).length = word.dropWhile isDigit := by
    conv_lhs => arg 2; rw [← split]
    exact List.drop_left
  simp only [isNumberText, rest]
  -- A number may go on with a point after its digits, but a point is a mark and ends a word.
  cases tail : word.dropWhile isDigit with
  | nil =>
    have digits : word.takeWhile isDigit = word := by
      rw [tail, List.append_nil] at split
      exact split
    have all : word.all isDigit = true := List.all_eq_true.mpr (List.dropWhile_eq_nil_iff.mp tail)
    simp [digits, all, isWord.1]
  | cons c places =>
    have inside : c ∈ word := by
      rw [← split, tail]
      simp
    have other : isDigit c = false := by
      have first := List.head_dropWhile_not isDigit (l := word)
      simpa [tail] using first
    have point : c ≠ '.' := by
      rintro rfl
      exact ((isWord_iff.mp isWord).2 _ inside).2 (by decide)
    have some : word.all isDigit = false := List.all_eq_false.mpr ⟨c, inside, by simp [other]⟩
    rw [some, Bool.and_eq_false_iff]
    right
    split
    next none => cases none
    next places same => exact absurd (List.cons.inj same).1 point
    next => rfl

theorem categorize_eq (language : Language) :
    categorize language word =
      if isReserved language word then .keyword
      else if word.all isDigit then .number
      else if isQuotedText word then .string
      else if isIdentifierText word then .identifier
      else .other := by
  have filled : ∀ c ∈ word, isBlank c = false :=
    fun c inside => ((isWord_iff.mp isWord).2 c inside).1
  simp only [categorize, isWord.dropFinalBreak_eq, trim_eq_self filled, isWord.not_isOperatorText,
    isWord.isNumberText_eq, isWord.not_isDelimiterText, Bool.false_eq_true, if_false]

end IsWord

theorem Language.Reserves.isLetters (reserved : language.Reserves word) :
    word ≠ [] ∧ word.all isLetter = true := by
  have each : ∀ language : Language, ∀ profile ∈ language.profile?,
      ∀ word ∈ profile.reservedWords, word.toList ≠ [] ∧ word.toList.all isLetter = true := by
    rintro (_ | _ | _ | _) <;> decide +kernel
  obtain ⟨profile, known, listed⟩ := reserved
  obtain ⟨name, named, rfl⟩ := List.mem_map.mp listed
  exact each language profile known name named

theorem not_isDigit_of_isLetter (letter : isLetter c = true) : isDigit c = false := by
  simp only [isLetter, isUpper, isLower, isDigit, Char.le_def, UInt32.le_iff_toNat_le,
    Bool.or_eq_true, Bool.and_eq_true, Bool.and_eq_false_iff, decide_eq_true_eq,
    decide_eq_false_iff_not] at letter ⊢
  simp only [Char.reduceVal, UInt32.reduceToNat] at letter ⊢
  omega

theorem Language.Reserves.not_isDigits (reserved : language.Reserves word) :
    word.all isDigit = false := by
  obtain ⟨filled, letters⟩ := reserved.isLetters
  obtain ⟨c, rest, rfl⟩ := List.exists_cons_of_ne_nil filled
  have letter : isLetter c = true := List.all_eq_true.mp letters c List.mem_cons_self
  rw [List.all_cons, not_isDigit_of_isLetter letter, Bool.false_and]

theorem not_isReserved_mark (marks : c ∈ splitMarks) : isReserved language [c] = false := by
  rw [Bool.eq_false_iff, ne_eq, isReserved_iff]
  intro reserved
  have letter : isLetter c = true := by simpa using reserved.isLetters.2
  have others : ∀ d ∈ splitMarks, isLetter d = false := List.all_iff_forall_prop.mp (by decide)
  rw [others c marks] at letter
  contradiction

theorem categorize_delimiter (language : Language) (marks : c ∈ delimiterMarks) :
    categorize language [c] = .delimiter := by
  have each : ∀ d ∈ delimiterMarks, dropFinalBreak [d] = [d] ∧ trim [d] = [d] ∧
      isOperatorText [d] = false ∧ isNumberText [d] = false ∧ isQuotedText [d] = false ∧
      isDelimiterText [d] = true :=
    List.all_iff_forall_prop.mp (by decide)
  obtain ⟨whole, trimmed, operator, number, quoted, delimiter⟩ := each c marks
  have plain : isReserved language [c] = false :=
    not_isReserved_mark (List.mem_append_left _ marks)
  simp [categorize, whole, trimmed, plain, operator, number, quoted, delimiter]

theorem categorize_operator (language : Language) (marks : c ∈ operatorMarks) :
    categorize language [c] = .operator := by
  have each : ∀ d ∈ operatorMarks, dropFinalBreak [d] = [d] ∧ trim [d] = [d] ∧
      isOperatorText [d] = true :=
    List.all_iff_forall_prop.mp (by decide)
  obtain ⟨whole, trimmed, operator⟩ := each c marks
  have plain : isReserved language [c] = false :=
    not_isReserved_mark (List.mem_append_right _ marks)
  simp [categorize, whole, trimmed, plain, operator]

end

structure Token.Shaped (language : Language) (token : Token) : Prop where
  filled : token.value ≠ []
  unbroken : ∀ c ∈ token.value, isBlank c = false
  markOrWord : (∃ c ∈ splitMarks, token.value = [c]) ∨ ∀ c ∈ token.value, c ∉ splitMarks
  delimiter : token.category = .delimiter ↔ ∃ c ∈ delimiterMarks, token.value = [c]
  operator : token.category = .operator ↔ ∃ c ∈ operatorMarks, token.value = [c]
  keyword : token.category = .keyword ↔ language.Reserves token.value
  number : token.category = .number ↔ ∀ c ∈ token.value, '0' ≤ c ∧ c ≤ '9'
  plain : token.category ∈ [.number, .string, .identifier, .keyword] →
    ∀ c ∈ token.value, c ∉ splitMarks

section

variable {c : Char} {piece : Text} {language : Language} {number : Nat}

theorem Token.Shaped.isWord {token : Token} (shaped : token.Shaped language)
    (plain : ∀ c ∈ token.value, c ∉ splitMarks) : IsWord token.value :=
  isWord_iff.mpr ⟨shaped.filled, fun c inside => ⟨shaped.unbroken c inside, plain c inside⟩⟩

theorem shaped_mark (marks : c ∈ splitMarks) :
    Token.Shaped language ⟨[c], number, categorize language [c]⟩ := by
  have others : ∀ d ∈ splitMarks, isBlank d = false ∧ ¬ ('0' ≤ d ∧ d ≤ '9') :=
    List.all_iff_forall_prop.mp (by decide)
  obtain ⟨filled, other⟩ := others c marks
  have unreserved : ¬ language.Reserves [c] := by
    rw [← isReserved_iff, not_isReserved_mark marks]
    simp
  have apart : ∀ d ∈ delimiterMarks, d ∉ operatorMarks := List.all_iff_forall_prop.mp (by decide)
  rcases List.mem_append.mp marks with delimiter | operator
  next =>
    have category := categorize_delimiter language delimiter
    have none := apart c delimiter
    constructor <;> simp [category, filled, other, unreserved, delimiter, none, marks]
  next =>
    have category := categorize_operator language operator
    have none : c ∉ delimiterMarks := fun inside => apart c inside operator
    constructor <;> simp [category, filled, other, unreserved, operator, none, marks]

theorem shaped_word (isWord : IsWord piece) :
    Token.Shaped language ⟨piece, number, categorize language piece⟩ := by
  obtain ⟨filled, plain⟩ := isWord_iff.mp isWord
  have noMark {marks : Text} (listed : marks ⊆ splitMarks) : ¬ ∃ c ∈ marks, piece = [c] := by
    rintro ⟨c, inside, rfl⟩
    exact (plain c List.mem_cons_self).2 (listed inside)
  have noDelimiter := noMark (List.subset_append_left delimiterMarks operatorMarks)
  have noOperator := noMark (List.subset_append_right delimiterMarks operatorMarks)
  have digits : piece.all isDigit = true ↔ ∀ c ∈ piece, '0' ≤ c ∧ c ≤ '9' := by
    simp [isDigit]
  have reserved : isReserved language piece = true → piece.all isDigit = false :=
    fun listed => (isReserved_iff.mp listed).not_isDigits
  have category := isWord.categorize_eq language
  constructor
  case filled => exact filled
  case unbroken => exact fun c inside => (plain c inside).1
  case markOrWord => exact .inr fun c inside => (plain c inside).2
  case plain => exact fun _ c inside => (plain c inside).2
  case delimiter =>
    simp only [category, noDelimiter, iff_false]
    split_ifs <;> decide
  case operator =>
    simp only [category, noOperator, iff_false]
    split_ifs <;> decide
  case keyword =>
    simp only [category, ← isReserved_iff]
    split_ifs <;> simp_all
  case number =>
    simp only [category, ← digits]
    split_ifs <;> simp_all

theorem shaped_of_mem_tokenize {source : Text} {token : Token}
    (inside : token ∈ tokenize source language) : token.Shaped language := by
  obtain ⟨⟨line, number⟩, _, there⟩ := List.mem_flatMap.mp inside
  obtain ⟨piece, listed, rfl⟩ := List.mem_map.mp there
  rcases (cut_pieces line).mark_or_word listed with ⟨c, marks, rfl⟩ | isWord
  next => exact shaped_mark (isPunctuation_iff.mp marks)
  next => exact shaped_word isWord

end

/-- White space stands between the two tokens, and what stands before and behind them on their
line is cut into the other tokens of it. -/
def StandsApart (source : Text) (language : Language) (earlier : List Token) (first second : Token)
    (later : List Token) : Prop :=
  ∃ i line before gap after, first.line = i + 1 ∧
    (lines (stripComments source language))[i]? = some line ∧
    line = before ++ first.value ++ gap ++ second.value ++ after ∧
    gap ≠ [] ∧ isBlankText gap = true ∧
    pieces before = valuesOn first.line earlier ∧ pieces after = valuesOn first.line later

theorem standsApart_of_plain {source : Text} {language : Language} {earlier later : List Token}
    {first second : Token} (whole : tokenize source language = earlier ++ first :: second :: later)
    (together : first.line = second.line) (firstPlain : ∀ c ∈ first.value, c ∉ splitMarks)
    (secondPlain : ∀ c ∈ second.value, c ∉ splitMarks) :
    StandsApart source language earlier first second later := by
  have firstInside : first ∈ tokenize source language := by simp [whole]
  have secondInside : second ∈ tokenize source language := by simp [whole]
  have firstWord := (shaped_of_mem_tokenize firstInside).isWord firstPlain
  have secondWord := (shaped_of_mem_tokenize secondInside).isWord secondPlain
  obtain ⟨positive, line, stands, _⟩ := exists_line_of_mem_tokenize firstInside
  have numbered : first.line = first.line - 1 + 1 := by omega
  have cut : pieces line = valuesOn first.line earlier ++
      first.value :: second.value :: valuesOn first.line later := by
    calc pieces line = valuesOn first.line (tokenize source language) := by
          rw [numbered, valuesOn_tokenize stands]
      _ = valuesOn first.line earlier ++
            first.value :: second.value :: valuesOn first.line later := by
          rw [whole, valuesOn_append]
          simp [valuesOn, ← together]
  obtain ⟨before, gap, after, joined, filled, blank, front, back⟩ :=
    exists_gap_of_pieces_eq cut firstWord secondWord
  exact ⟨first.line - 1, line, before, gap, after, numbered, stands, joined, filled, blank, front,
    back⟩

/-- Every token is a mark or a word, and its category says what it is made of; words that follow
each other on a line are apart in it. -/
theorem tokenize_shaped (source : Text) (language : Language) :
    (∀ token ∈ tokenize source language, token.Shaped language) ∧
      ∀ earlier first second later,
        tokenize source language = earlier ++ first :: second :: later →
        first.line = second.line → (∀ c ∈ first.value, c ∉ splitMarks) →
        (∀ c ∈ second.value, c ∉ splitMarks) →
          StandsApart source language earlier first second later := by
  refine ⟨fun token => shaped_of_mem_tokenize, ?_⟩
  intro earlier first second later whole together firstPlain secondPlain
  exact standsApart_of_plain whole together firstPlain secondPlain

end SnippetGauge
