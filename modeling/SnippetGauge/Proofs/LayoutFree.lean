import SnippetGauge.Proofs.JoinedTexts
import SnippetGauge.Proofs.LineMatches
import SnippetGauge.Proofs.LoweredLines

set_option autoImplicit false

namespace SnippetGauge

open Text

section

variable {margins : Margins} {first second : Text}

theorem tokensFrom_congr {parts others : List Text}
    (same : parts.map margins.body = others.map margins.body) (language : Language)
    (number : Nat) : tokensFrom language number parts = tokensFrom language number others := by
  induction parts, others, same using Margins.induct_bodies generalizing number with
  | nil => rfl
  | cons line other later below here rest ih =>
    have cut : pieces line = pieces other := wide_ignoredBy_pieces.of_wide.congr here
    rw [tokensFrom_cons, tokensFrom_cons, ih, tokenizeLine, cut, tokenizeLine]

theorem Margins.SameBetween.tokenize_eq (same : margins.SameBetween first second)
    (language : Language) : tokenize first language = tokenize second language :=
  tokensFrom_congr (same.stripComments language) language 1

end

namespace Lint

variable {margins : Margins} {first second : Text}

namespace RuleSet

variable {rules : RuleSet}

theorem lintLines_congr
    (tracks : ∀ state number, margins.IgnoredBy (rules.trackLine state number))
    {parts others : List Text} (same : parts.map margins.body = others.map margins.body)
    (state : Indentation) (number : Nat) :
    rules.lintLines state number parts = rules.lintLines state number others := by
  induction parts, others, same using Margins.induct_bodies generalizing state number with
  | nil => rfl
  | cons line other later below here rest ih =>
    have trimmed : trim line = trim other := Margins.ignoredBy_trim.congr here
    simp only [lintLines, trimmed, (tracks state number).congr here, ih]

theorem ignoredBy_trackLine (untracked : rules.tracksIndentation = false) (state : Indentation)
    (number : Nat) : margins.IgnoredBy (rules.trackLine state number) where
  front _ _ _ := by simp [trackLine, untracked]
  back _ _ _ := by simp [trackLine, untracked]

end RuleSet

def FileCheck.IgnoresMargins (check : FileCheck) : Prop :=
  ∀ first second, Margins.wide.SameBetween first second → check.advise first = check.advise second

theorem RuleSet.fileFindings_congr {rules : RuleSet}
    (blind : ∀ check ∈ rules.fileChecks, check.IgnoresMargins)
    (same : Margins.wide.SameBetween first second) :
    rules.fileFindings first = rules.fileFindings second := by
  unfold fileFindings
  rw [List.filterMap_congr fun check inside => blind check inside first second same]

theorem FileCheck.ignoresMargins_when {applies : Text → Bool}
    (blind : ∀ first second, Margins.wide.SameBetween first second →
      applies first = applies second) (advice : Advice) :
    (FileCheck.when applies advice).IgnoresMargins := by
  intro first second same
  simp only [FileCheck.when, blind first second same]

namespace Cpp

theorem ignoresMargins_needs {name header : String}
    (clear : Margins.wide.clearOf name.toList = true ∧ Margins.wide.clearOf header.toList = true)
    (message suggestion : String) : (needs name header message suggestion).IgnoresMargins := by
  apply FileCheck.ignoresMargins_when
  intro first second same
  rw [mentions_congr clear.1 same, mentions_congr clear.2 same]

theorem ignoresMargins {check : FileCheck} (listed : check ∈ rules.fileChecks) :
    check.IgnoresMargins := by
  simp only [rules, List.mem_cons, List.not_mem_nil, or_false] at listed
  rcases listed with rfl | rfl | rfl
  next => exact ignoresMargins_needs (by decide) _ _
  next => exact ignoresMargins_needs (by decide) _ _
  next =>
    apply FileCheck.ignoresMargins_when
    intro first second same
    unfold lacksNamespace
    rw [mentions_congr _ same, mentions_congr _ same, mentions_congr _ same] <;> decide

end Cpp

namespace Java

open Pattern (readFirst BlindToGaps ReadsThrough isGapless)

def className? (left : Text) : Option Text :=
  if (leadingWord left).isEmpty then none else some (leadingWord left)

theorem publicClassName?_eq_readFirst (code : Text) :
    publicClassName? code = readFirst (publicClassHead.andThen className?) code := by
  induction code with
  | nil => rfl
  | cons c rest ih =>
    rw [publicClassName?, readFirst, Pattern.andThen, ih]
    induction publicClassHead.rests (c :: rest) with
    | nil => rfl
    | cons left later further =>
      rw [List.find?_cons, List.findSome?_cons, className?]
      cases (leadingWord left).isEmpty with
      | true => exact further
      | false => rfl

theorem readsThrough_className? : ReadsThrough className? where
  blind text := by rw [className?, leadingWord_squeeze, className?]
  drops c rest blank _ := by
    have none : leadingWord (c :: rest) = [] :=
      List.takeWhile_cons_of_neg (by simp [isWordChar_of_isBlank blank])
    rw [className?, none]
    rfl

theorem blind_publicClassHead : BlindToGaps (publicClassHead.andThen className?) := by
  have named : BlindToGaps (Pattern.someBlanks.andThen (Pattern.nothing.andThen className?)) := by
    rw [Pattern.andThen_nothing]
    exact readsThrough_className?.someBlanks rfl
  have classWord := named.literal (show isGapless "class".toList = true by decide)
  have publicWord := (classWord.someBlanks rfl).literal
    (show isGapless "public".toList = true by decide)
  simp only [publicClassHead, Pattern.all, List.foldr_cons, List.foldr_nil, Pattern.andThen_seq]
  exact publicWord.blind

theorem publicClassName?_congr (same : margins.SameBetween first second) :
    publicClassName? first = publicClassName? second := by
  rw [← publicClassName?_break first, ← publicClassName?_break second,
    publicClassName?_eq_readFirst, publicClassName?_eq_readFirst,
    ← Pattern.readFirst_squeeze blind_publicClassHead, same.squeeze_break,
    Pattern.readFirst_squeeze blind_publicClassHead]

theorem isWord_of_publicClassName? {code name : Text}
    (found : publicClassName? code = some name) : IsWord name := by
  fun_induction publicClassName? code with
  | case1 => simp at found
  | case2 c rest left first =>
    obtain rfl := Option.some.inj found
    exact ⟨by simpa using List.find?_some first, fun _ => List.mem_takeWhile_imp⟩
  | case3 c rest missing ih => exact ih found

theorem clearOf_classNeedle {name : Text} (word : IsWord name) :
    Margins.wide.clearOf ("class ".toList ++ lower name) = true := by
  have solid : ∀ c ∈ name, isBlank c = false := by
    intro c inside
    cases blank : isBlank c with
    | true => exact absurd (word.whole c inside) (by simp [isWordChar_of_isBlank blank])
    | false => rfl
  have single : '\n' ∉ lower name :=
    break_notMem_lower fun breaks => absurd (solid _ breaks) (by decide)
  have filled : lower name ≠ [] := lower_ne_nil word.filled
  have last : isBlank ((lower name).getLast filled) = false :=
    isBlank_of_mem_lower solid _ (List.getLast_mem filled)
  have ends : ("class ".toList ++ lower name).getLast? = some ((lower name).getLast filled) := by
    rw [List.getLast?_append_of_ne_nil _ filled, List.getLast?_eq_some_getLast filled]
  have starts : ("class ".toList ++ lower name).head? = some 'c' := rfl
  have whole : ("class ".toList ++ lower name).contains '\n' = false := by simp [single]
  have front : isBlank 'c' = false := rfl
  simp only [Margins.clearOf, Margins.wide, starts, ends, whole, Option.any_some, front, last,
    Bool.not_false, Bool.and_self]

theorem classNameAdvice_congr (same : Margins.wide.SameBetween first second) :
    classNameAdvice first = classNameAdvice second := by
  unfold classNameAdvice
  rw [publicClassName?_congr same]
  cases found : publicClassName? second with
  | none => rfl
  | some name =>
    have clear := clearOf_classNeedle (isWord_of_publicClassName? found)
    dsimp only
    rw [same.lower.occursIn clear]

theorem ignoresMargins {check : FileCheck} (listed : check ∈ rules.fileChecks) :
    check.IgnoresMargins := by
  simp only [rules, List.mem_cons, List.not_mem_nil, or_false] at listed
  rcases listed with rfl | rfl
  next => exact fun _ _ same => classNameAdvice_congr same
  next =>
    apply FileCheck.ignoresMargins_when
    intro first second same
    unfold lacksMain
    rw [mentions_congr _ same, mentions_congr _ same] <;> decide

end Java

theorem ignoresMargins {language : Language} {rules : RuleSet} (blocks : HasBlocks language)
    (known : rules? language = some rules) : ∀ check ∈ rules.fileChecks, check.IgnoresMargins := by
  rcases blocks with rfl | rfl
  next =>
    obtain rfl := Option.some.inj known
    exact fun _ listed => Cpp.ignoresMargins listed
  next =>
    obtain rfl := Option.some.inj known
    exact fun _ listed => Java.ignoresMargins listed

end Lint

theorem lint_congr_of_hasBlocks {first second : Text} {language : Language}
    (blocks : HasBlocks language) (same : Margins.wide.SameBetween first second) :
    lint first language = lint second language := by
  have stripped := same.stripComments language
  unfold lint
  cases known : Lint.rules? language with
  | none => rfl
  | some rules =>
    have untracked := Lint.tracksIndentation_of_hasBlocks blocks known
    have byLine := Lint.RuleSet.lintLines_congr
      (Lint.RuleSet.ignoredBy_trackLine untracked) stripped .start 1
    have byFile := Lint.RuleSet.fileFindings_congr (Lint.ignoresMargins blocks known) stripped
    exact congrArg₂ (· ++ ·) byLine byFile

theorem tokenize_lint_of_map_trim {first second : Text}
    (same : (lines first).map trim = (lines second).map trim) :
    (∀ language, tokenize first language = tokenize second language) ∧
      ∀ language, HasBlocks language → lint first language = lint second language := by
  rw [← Margins.body_wide] at same
  exact ⟨Margins.SameBetween.tokenize_eq same, fun _ blocks => lint_congr_of_hasBlocks blocks same⟩

def flushText : Text := "public class Row \x7b /*\n*/ int count\n\x7d".toList

def shiftedText : Text := "\tpublic class Row \x7b /* \r\n  */ int count\u2003\r\n \x7d\r".toList

theorem tokenize_lint_shiftedText :
    (lines flushText).map trim = (lines shiftedText).map trim ∧ flushText ≠ shiftedText ∧
      (∀ language, tokenize flushText language = tokenize shiftedText language) ∧
      HasBlocks .java ∧ lint flushText .java = lint shiftedText .java ∧
      (lint flushText .java).map (·.message) =
        ["Possible missing semicolon", "Variable declared but not initialized",
          "Java is case-sensitive with class names", "No main method found"] := by
  have same : (lines flushText).map trim = (lines shiftedText).map trim := by decide
  have blocks : HasBlocks .java := .inr rfl
  obtain ⟨tokens, findings⟩ := tokenize_lint_of_map_trim same
  exact ⟨same, by decide, tokens, blocks, findings .java blocks, by decide⟩

end SnippetGauge
