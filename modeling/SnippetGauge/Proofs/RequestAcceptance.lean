import Mathlib.Algebra.Order.Field.Power
import Mathlib.Data.Rat.Cast.Order
import Mathlib.Tactic.Positivity
import SnippetGauge.Proofs.LanguageNames
import SnippetGauge.Proofs.SubmittedCode

set_option autoImplicit false

namespace SnippetGauge

open Text Checked Scalar

namespace Text

theorem signed_mul (negative : Bool) (n factor : Nat) :
    signed negative (n * factor) = signed negative n * factor := by
  cases negative <;> simp [signed]

theorem natAbs_signed (negative : Bool) (n : Nat) : (signed negative n).natAbs = n := by
  cases negative <;> simp [signed]

end Text

namespace Real

def value? : Real → Option ℚ
  | .finite negative mantissa exponent => some (signed negative mantissa * 2 ^ exponent)
  | _ => none

theorem integer?_eq_some_iff {real : Real} {n : Int} :
    real.integer? = some n ↔ real.value? = some (n : ℚ) := by
  rcases real with _ | _ | ⟨negative, mantissa, k | k⟩
  next => simp [integer?, value?]
  next => simp [integer?, value?]
  next =>
    have up : ¬ (k : Int) < 0 := by omega
    simp only [integer?, value?, up, if_false, Option.some.injEq, Nat.pow_eq, signed_mul,
      Int.ofNat_eq_natCast, Int.toNat_natCast, zpow_natCast]
    norm_cast
  next =>
    -- Below zero the mantissa is divided, and must be a multiple of the power of two.
    have positive : 0 < 2 ^ (k + 1) := by positivity
    generalize power : 2 ^ (k + 1) = p at positive
    have scaled : (signed negative mantissa : ℚ) * 2 ^ Int.negSucc k = n ↔
        signed negative mantissa = n * p := by
      rw [zpow_negSucc, mul_inv_eq_iff_eq_mul₀ (by positivity), ← power]
      norm_cast
    simp only [integer?, value?, Int.negSucc_lt_zero, if_true, Option.some.injEq, Nat.pow_eq,
      Int.natAbs_negSucc, Nat.succ_eq_add_one, power, scaled]
    by_cases whole : p ∣ mantissa
    next =>
      obtain ⟨quotient, rfl⟩ := whole
      rw [Nat.mul_comm p quotient, signed_mul]
      have cancel : signed negative quotient * (p : Int) = n * p ↔ signed negative quotient = n :=
        mul_left_inj' (by omega)
      simp [cancel, positive]
    next =>
      have rest : ¬ (mantissa % p == 0) = true := by simpa [Nat.dvd_iff_mod_eq_zero] using whole
      have apart : signed negative mantissa ≠ n * p := by
        intro same
        have divides : (p : Int) ∣ signed negative mantissa := ⟨n, by rw [same, Int.mul_comm]⟩
        rw [Int.natCast_dvd, natAbs_signed] at divides
        exact whole divides
      simp [rest, apart]

end Real

namespace Json

def IsWithin (limit : Int) : Json → Prop
  | .str text => text.length ≤ limit
  | .brokenStr marks => marks.length ≤ limit
  | _ => False

instance (limit : Int) : DecidablePred (IsWithin limit)
  | .str _ | .brokenStr _ => inferInstanceAs (Decidable (_ ≤ limit))
  | .null | .bool _ | .int _ | .real _ | .arr _ | .obj _ => .isFalse not_false

def laxNames : List String :=
  ["1", "true", "t", "yes", "y", "on", "0", "false", "f", "no", "n", "off"]

/-- Numbers and names count as truth values too, names in any ASCII letter case. -/
def IsLaxBool : Json → Prop
  | .bool _ => True
  | .int n => n = 0 ∨ n = 1
  | .real written =>
    (Real.ofWritten written).value? = some 0 ∨ (Real.ofWritten written).value? = some 1
  | .str text => text.map Char.toLower ∈ laxNames
  | _ => False

instance : DecidablePred IsLaxBool
  | .bool _ => .isTrue trivial
  | .int _ | .real _ => inferInstanceAs (Decidable (_ ∨ _))
  | .str _ => inferInstanceAs (Decidable (_ ∈ laxNames))
  | .null | .brokenStr _ | .arr _ | .obj _ => .isFalse not_false

end Json

namespace Checked

variable {α : Type}

inductive Judged (allowed : Prop) : Checked α → Prop where
  | taken (value : α) (fits : allowed) : Judged allowed (.ok value)
  | refused (problem : Problem) (unfit : ¬ allowed) : Judged allowed (fail problem)

end Checked

namespace Scalar

theorem isSome_boolOfText?_iff {text : String} :
    (boolOfText? text).isSome = true ↔ text.map Char.toLower ∈ Json.laxNames := by
  have same : (trueNames ++ falseNames).Perm Json.laxNames := by decide
  rw [← same.mem_iff, List.mem_append, boolOfText?]
  split_ifs with yes no <;> simp_all

theorem parseBool_judged (text : String) :
    Judged (text.map Char.toLower ∈ Json.laxNames) (parseBool text) := by
  rw [← isSome_boolOfText?_iff, parseBool]
  cases boolOfText? text with
  | some value => exact .taken value rfl
  | none => exact .refused .boolParsing (by simp)

theorem readBool_judged (value : Json) : Judged value.IsLaxBool (readBool value) := by
  fun_cases readBool value with
  | case1 value => exact .taken value trivial
  | case2 => exact .taken false (.inl rfl)
  | case3 => exact .taken true (.inr rfl)
  | case4 n zero one | case5 n zero one => exact .refused _ (not_or.mpr ⟨zero, one⟩)
  | case6 written whole =>
    rw [Real.integer?_eq_some_iff] at whole
    exact .taken false (.inl (by simpa using whole))
  | case7 written whole =>
    rw [Real.integer?_eq_some_iff] at whole
    exact .taken true (.inr (by simpa using whole))
  | case8 written zero one =>
    rw [imp_false, Real.integer?_eq_some_iff] at zero one
    exact .refused _ (by simpa [Json.IsLaxBool] using not_or.mpr ⟨zero, one⟩)
  | case9 text => exact parseBool_judged text
  | case10 marks => exact .refused .stringUnicode not_false
  | case11 value bool zero one int real str =>
    -- What may be taken at all is one of the kinds that the earlier cases name.
    have unfit : ¬ value.IsLaxBool := by
      unfold Json.IsLaxBool
      split <;> simp_all
    exact .refused .boolType unfit

end Scalar

namespace Service

inductive Field where
  | code
  | language
  | includeTokens
  deriving DecidableEq

namespace Field

def all : List Field := [code, language, includeTokens]

def name : Field → String
  | code => "code"
  | language => "language"
  | includeTokens => "includeTokens"

-- The limit on the code is a setting, that on the language is not.
def Bounds (maxLength : Int) : Field → Json → Prop
  | code, value => (value matches .null) ∨ value.IsWithin maxLength
  | language, value => value.IsWithin 50
  | includeTokens, value => value.IsLaxBool

def Takes (maxLength : Int) (field : Field) (value : Json) : Prop :=
  field.Bounds maxLength value ∧ (field = language → ¬ value matches .brokenStr _)

def Offends (maxLength : Int) (members : Members) (field : Field) : Prop :=
  ∃ value ∈ Json.member? members field.name, ¬ field.Takes maxLength value

instance (maxLength : Int) : (field : Field) → DecidablePred (field.Bounds maxLength)
  | code => fun _ => inferInstanceAs (Decidable (_ ∨ _))
  | language => inferInstanceAs (DecidablePred (Json.IsWithin 50))
  | includeTokens => inferInstanceAs (DecidablePred Json.IsLaxBool)

instance (maxLength : Int) (members : Members) : DecidablePred (Offends maxLength members) :=
  fun field => inferInstanceAs (Decidable (∃ value ∈ Json.member? members field.name, ¬ (_ ∧ _)))

end Field

def offending (maxLength : Int) (members : Members) : List Field :=
  Field.all.filter (·.Offends maxLength members)

namespace AnalyzeRequest

variable (maxLength : Int)

theorem readCode_judged (value : Json) :
    Judged (Field.code.Takes maxLength value) (readCode maxLength value) := by
  cases value with
  | null => exact .taken none ⟨.inl rfl, nofun⟩
  | str text | brokenStr marks =>
    simp only [readCode, readMarks]
    split
    next long =>
      exact .refused .valueError (by
        simpa [Field.Takes, Field.Bounds, Json.IsWithin, ← String.length_toList] using long)
    next short =>
      exact .taken _ (by
        simpa [Field.Takes, Field.Bounds, Json.IsWithin, ← String.length_toList] using short)
  | _ => exact .refused .stringType (by simp [Field.Takes, Field.Bounds, Json.IsWithin])

theorem readLanguage_judged (value : Json) :
    Judged (Field.language.Takes maxLength value) (readLanguage value) := by
  cases value with
  | str name =>
    rw [readLanguage]
    split
    next long =>
      exact .refused .stringTooLong (by
        simpa [Field.Takes, Field.Bounds, Json.IsWithin, maxHintLength] using long)
    next short =>
      exact .taken _ (by
        simpa [Field.Takes, Field.Bounds, Json.IsWithin, maxHintLength] using short)
  | brokenStr marks => exact .refused .stringUnicode (by simp [Field.Takes])
  | _ => exact .refused .stringType (by simp [Field.Takes, Field.Bounds, Json.IsWithin])

theorem readTokens_judged (value : Json) :
    Judged (Field.includeTokens.Takes maxLength value) (readBool value) := by
  have takes : Field.includeTokens.Takes maxLength value ↔ value.IsLaxBool := and_iff_left nofun
  rw [takes]
  exact readBool_judged value

end AnalyzeRequest

variable {α β : Type} {fields later : List Field}

/-- There is a violation in each of these fields, in this order, and none in another. -/
inductive Reports (fields : List Field) : Checked α → Prop where
  | taken (value : α) (none : fields = []) : Reports fields (.ok value)
  | refused (found : List Violation) (some : fields ≠ [])
      (paths : found.map (·.path) = fields.map fun field => [.field field.name]) :
      Reports fields (.error found)

theorem Reports.exists_ok_iff {checked : Checked α} (reports : Reports fields checked) :
    (∃ value, checked = .ok value) ↔ fields = [] := by
  cases reports with
  | taken value none => simp [none]
  | refused found some paths => simp [some]

theorem Reports.paths_eq {found : List Violation} {checked : Checked α}
    (reports : Reports fields checked) (refused : checked = .error found) :
    found.map (·.path) = fields.map fun field => [.field field.name] := by
  subst refused
  cases reports with
  | refused _ _ paths => exact paths

theorem Reports.both {first : Checked α} {second : Checked β} (reports : Reports fields first)
    (reportsLater : Reports later second) : Reports (fields ++ later) (both first second) := by
  cases reports with
  | taken value none =>
    subst none
    cases reportsLater with
    | taken other none => exact .taken _ none
    | refused found some paths => exact .refused found some paths
  | refused found some paths =>
    cases reportsLater with
    | taken other none =>
      rw [none, List.append_nil]
      exact .refused found some paths
    | refused more _ morePaths =>
      refine .refused (found ++ more) (by simp [some]) ?_
      rw [List.map_append, List.map_append, paths, morePaths]

theorem Reports.map {checked : Checked α} (reports : Reports fields checked) (f : α → β) :
    Reports fields (checked.map f) := by
  cases reports with
  | taken value none => exact .taken (f value) none
  | refused found some paths => exact .refused found some paths

theorem reports_optional {maxLength : Int} (members : Members) (field : Field) (absent : α)
    {check : Json → Checked α}
    (judged : ∀ value, Judged (field.Takes maxLength value) (check value)) :
    Reports ([field].filter (·.Offends maxLength members))
      (members.optional field.name absent check) := by
  unfold Members.optional
  -- A field that is absent takes its default and never offends.
  cases stands : Json.member? members field.name with
  | none => exact .taken absent (by simp [Field.Offends, stands])
  | some value =>
    have offends : field.Offends maxLength members ↔ ¬ field.Takes maxLength value := by
      simp [Field.Offends, stands]
    have judged := judged value
    rw [toField]
    generalize check value = checked at judged ⊢
    cases judged with
    | taken result fits =>
      have listed : [field].filter (·.Offends maxLength members) = [] := by simp [offends, fits]
      exact .taken result listed
    | refused problem unfit =>
      have listed : [field].filter (·.Offends maxLength members) = [field] := by
        simp [offends, unfit]
      rw [listed]
      exact .refused _ (List.cons_ne_nil field []) rfl

namespace AnalyzeRequest

theorem ofMembers_reports (maxLength : Int) (members : Members) :
    Reports (offending maxLength members) (ofMembers maxLength members) := by
  have code := reports_optional members .code none (readCode_judged maxLength)
  have language := reports_optional members .language "auto" (readLanguage_judged maxLength)
  have tokens := reports_optional members .includeTokens false (readTokens_judged maxLength)
  have whole : offending maxLength members = [Field.code].filter (·.Offends maxLength members) ++
      ([Field.language].filter (·.Offends maxLength members) ++
        [Field.includeTokens].filter (·.Offends maxLength members)) := by
    simp only [← List.filter_append]
    rfl
  rw [whole]
  exact (code.both (language.both tokens)).map _

variable {maxLength : Int} {members : Members} {request : AnalyzeRequest} {language : Language}

theorem hint_of_ofMembers_eq_some_iff (read : ofMembers maxLength members = .ok request) :
    request.hint = some language ↔ language ≠ .unidentified ∧
      ∃ text, Json.member? members "language" = some (.str text) ∧
        language.WrittenIn text.toList := by
  rw [hint_eq_some_iff]
  rcases language_of_ofMembers read with ⟨absent, stored⟩ | ⟨name, stands, stored⟩
  next =>
    have other : "auto" ≠ language.name := by cases language <;> decide
    simp [stored, absent, other]
  next =>
    rw [stored, normalized_eq_name_iff]
    refine and_congr_right fun known => ?_
    simp [stands, Language.lower_trim_eq_name_iff known]

theorem ofMembers_acceptance (maxLength : Int) (members : Members) :
    ((∃ request, ofMembers maxLength members = .ok request) ↔
        ∀ field : Field, ¬ field.Offends maxLength members) ∧
      (∀ found, ofMembers maxLength members = .error found →
        found.map (·.path) = (offending maxLength members).map fun field => [.field field.name]) ∧
      ∀ request, ofMembers maxLength members = .ok request →
        ∃ hint, request.languageHint = .ok hint ∧ hint ≠ some .unidentified ∧
          ∀ language, hint = some language ↔ language ≠ .unidentified ∧
            ∃ text, Json.member? members "language" = some (.str text) ∧
              language.WrittenIn text.toList := by
  have reports := ofMembers_reports maxLength members
  have spared : offending maxLength members = [] ↔
      ∀ field : Field, ¬ field.Offends maxLength members := by
    have all : ∀ field, field ∈ Field.all := by rintro (_ | _ | _) <;> decide
    simp [offending, List.filter_eq_nil_iff, all]
  refine ⟨reports.exists_ok_iff.trans spared, ?_, ?_⟩
  next =>
    intro found refused
    exact reports.paths_eq refused
  next =>
    intro request read
    refine ⟨request.hint, languageHint_of_ofMembers read, ?_,
      fun language => hint_of_ofMembers_eq_some_iff read⟩
    intro unidentified
    exact ((hint_of_ofMembers_eq_some_iff read).mp unidentified).1 rfl

-- A hint that is half of a surrogate pair has one code point, but is no Unicode text.
theorem not_takesAnyShortLanguage :
    ¬ ∀ (maxLength : Int) (members : Members),
      (∃ request, ofMembers maxLength members = .ok request) ↔
        ∀ field : Field, ∀ value ∈ Json.member? members field.name,
          field.Bounds maxLength value := by
  intro claimed
  have short : ∀ field : Field,
      ∀ value ∈ Json.member? [("language", .brokenStr [.half 0xD800 rfl])] field.name,
        field.Bounds 0 value := by
    rintro (_ | _ | _) value found <;> cases found
    exact show (1 : Int) ≤ 50 by decide
  obtain ⟨request, read⟩ := (claimed 0 [("language", .brokenStr [.half 0xD800 rfl])]).mpr short
  have refused : ofMembers 0 [("language", .brokenStr [.half 0xD800 rfl])] =
      .error [⟨[.field "language"], .stringUnicode⟩] := rfl
  rw [refused] at read
  cases read

end AnalyzeRequest

end Service

end SnippetGauge
