import SnippetGauge.Detection
import SnippetGauge.Proofs.BonusPatterns
import SnippetGauge.Proofs.LayoutFree
import SnippetGauge.Proofs.Returns
import SnippetGauge.Proofs.TopLevelLines
import SnippetGauge.Proofs.TrimmedLines

set_option autoImplicit false

namespace SnippetGauge

open Text

namespace Margins

def returns : Margins where
  lead _ := false
  trail c := c == '\r'
  blankLead _ lead := by simp at lead
  blankTrail c trail := by
    obtain rfl : c = '\r' := by simpa using trail
    rfl

theorem returns_ignoredBy {α : Type} {read : Text → α}
    (back : ∀ line, read (line ++ ['\r']) = read line) : returns.IgnoredBy read where
  front _ _ lead := by simp [returns] at lead
  back c line trail := by
    obtain rfl : c = '\r' := by simpa [returns] using trail
    exact back line

theorem sameBetween_withReturns (source : Text) :
    returns.SameBetween (withReturns source) source := by
  unfold SameBetween
  induction source using induct_lines with
  | last line single => rw [withReturns_eq_self single]
  | above line rest single ih =>
    have split : withReturns (line ++ '\n' :: rest) =
        (line ++ ['\r']) ++ '\n' :: withReturns rest := by
      rw [withReturns_append, withReturns_eq_self single, withReturns_break, List.append_assoc,
        List.singleton_append]
    have ended : '\n' ∉ line ++ ['\r'] := by simp [single]
    rw [split, lines_append_break ended, lines_append_break single, List.map_cons, List.map_cons,
      returns.body_concat rfl, ih]

theorem returns_ignoredBy_isIndentedLine : returns.IgnoredBy isIndentedLine := by
  apply returns_ignoredBy
  intro line
  let gap := line.takeWhile fun c => c == ' ' || c == '\t'
  have same : (line ++ ['\r']).takeWhile (fun c => c == ' ' || c == '\t') = gap := by
    rw [List.takeWhile_append]
    split
    next full =>
      have whole := (List.takeWhile_prefix fun c => c == ' ' || c == '\t').eq_of_length full
      exact (List.append_nil line).trans whole.symm
    next => rfl
  have within : gap.length ≤ line.length := (List.takeWhile_prefix _).length_le
  -- Where the gap fills the line, its end is no more a word than a carriage return is.
  have behind : (((line ++ ['\r']).drop gap.length).head?.map isWordChar).getD false =
      ((line.drop gap.length).head?.map isWordChar).getD false := by
    rw [List.drop_append_of_le_length within]
    cases line.drop gap.length with
    | nil => rfl
    | cons c rest => rfl
  unfold isIndentedLine
  simp only [same]
  rw [behind]

theorem returns_ignoredBy_trackLine (rules : Lint.RuleSet) (state : Indentation) (number : Nat) :
    returns.IgnoredBy (rules.trackLine state number) := by
  apply returns_ignoredBy
  intro line
  unfold Lint.RuleSet.trackLine
  rw [trimEnd_concat_of_isBlank rfl]

end Margins

section

variable {margins : Margins} {first second : Text}

def Bonus.Ignores (margins : Margins) (bonus : Bonus) : Prop :=
  ∀ first second, margins.SameBetween first second → bonus.holds first = bonus.holds second

theorem Bonus.ignores_strong {p : Pattern} (blind : Pattern.BlindToGaps (p.andThen Pattern.matched))
    (declined : p.declines '\n' = true) : (Bonus.strong p).Ignores margins :=
  fun _ _ same => Pattern.occursIn_congr blind declined same

namespace Profile

variable {profile : Profile}

structure ClearOf (profile : Profile) (margins : Margins) : Prop where
  keywords : ∀ keyword ∈ profile.keywords, margins.clearOf keyword.toList = true
  negatives : ∀ negative ∈ profile.negatives, margins.clearOf negative.toList = true
  bonuses : ∀ bonus ∈ profile.bonuses, bonus.Ignores margins

theorem ClearOf.points_eq (clear : profile.ClearOf margins)
    (same : margins.SameBetween first second) : profile.points first = profile.points second := by
  have keywords : profile.keywordPoints first = profile.keywordPoints second := by
    unfold keywordPoints
    rw [List.countP_congr fun keyword listed => by
      rw [same.occursIn (clear.keywords keyword listed)]]
  have negatives : profile.negativePoints first = profile.negativePoints second := by
    unfold negativePoints
    rw [List.countP_congr fun negative listed => by
      rw [same.occursIn (clear.negatives negative listed)]]
  have bonuses : profile.bonusPoints first = profile.bonusPoints second := by
    unfold bonusPoints
    rw [List.filter_congr fun bonus listed => clear.bonuses bonus listed first second same]
  rw [points, points, keywords, negatives, bonuses]

theorem cpp_clearOf_returns : cpp.ClearOf .returns where
  keywords := by decide
  negatives := by decide
  bonuses := by
    intro bonus listed
    simp only [cpp, List.mem_cons, List.not_mem_nil, or_false] at listed
    rcases listed with rfl | rfl
    next =>
      have directive := Pattern.readsThrough_matched.blind.literal
        (show Pattern.isGapless "#include".toList = true by decide)
      exact Bonus.ignores_strong directive.blind (by decide)
    next => exact Bonus.ignores_strong Pattern.blind_cppMain (by decide)

theorem java_clearOf_returns : java.ClearOf .returns where
  keywords := by decide
  negatives := by decide
  bonuses := by
    intro bonus listed
    simp only [java, List.mem_cons, List.not_mem_nil, or_false] at listed
    rcases listed with rfl | rfl
    next => exact Bonus.ignores_strong Pattern.blind_publicClass (by decide)
    next =>
      have words : Pattern.ReadsThrough (Pattern.publicMain.andThen Pattern.matched) :=
        Pattern.readsThrough_spaced Pattern.readsThrough_matched.blind (by decide)
      exact Bonus.ignores_strong words.blind (by decide)

theorem python_clearOf_returns : python.ClearOf .returns where
  keywords := by decide
  negatives := by decide
  bonuses := by
    intro bonus listed
    simp only [python, List.mem_cons, List.not_mem_nil, or_false] at listed
    rcases listed with rfl | rfl | rfl
    next => exact fun _ _ same => Margins.returns_ignoredBy_isIndentedLine.any_congr same
    next => exact fun _ _ same => same.occursIn (by decide)
    next =>
      intro first second same
      have semicolons : first.contains ';' = second.contains ';' := by
        rw [contains_eq_occursIn, contains_eq_occursIn, same.occursIn (by decide)]
      simp only [semicolons]

end Profile

end

theorem score_withReturns (source : Text) : score (withReturns source) = score source := by
  have same := (Margins.sameBetween_withReturns source).stripSlashComments.trim
  simp only [score, normalize]
  rw [Profile.cpp_clearOf_returns.points_eq same, Profile.java_clearOf_returns.points_eq same,
    Profile.python_clearOf_returns.points_eq same]

theorem lint_python_withReturns (source : Text) :
    lint (withReturns source) .python = lint source .python := by
  have same := (Margins.sameBetween_withReturns source).stripComments .python
  rw [lint_python, lint_python]
  exact Lint.RuleSet.lintLines_congr (Margins.returns_ignoredBy_trackLine _) same .start 1

/-- With a carriage return put before every line feed a source is detected as before, and the
findings on it as Python stay the same, whatever carriage returns it has already. -/
theorem detect_lint_withReturns (source : Text) :
    score (withReturns source) = score source ∧ detect (withReturns source) = detect source ∧
      lint (withReturns source) .python = lint source .python := by
  have scores := score_withReturns source
  exact ⟨scores, by rw [detect, detect, scores], lint_python_withReturns source⟩

end SnippetGauge
