import Mathlib.Data.List.Induction
import Mathlib.Data.List.TakeWhile
import Mathlib.Tactic.Positivity
import SnippetGauge.Settings

set_option autoImplicit false

namespace SnippetGauge

open Text Checked Scalar

theorem Text.ofDigits_lt {digits : List Nat} (small : ∀ d ∈ digits, d < 10) :
    ofDigits digits < 10 ^ digits.length := by
  induction digits using List.reverseRecOn with
  | nil => simp [ofDigits]
  | append_singleton front last ih =>
    have before := ih fun d inside => small d (by simp [inside])
    have digit := small last (by simp)
    simp only [ofDigits, List.foldl_append, List.foldl_cons, List.foldl_nil, List.length_append,
      List.length_singleton, Nat.pow_succ] at before ⊢
    omega

theorem Text.signed_le (negative : Bool) (n : Nat) : signed negative n ≤ n := by
  cases negative <;> simp [signed]

theorem Text.plainInteger_lt {text : Text} {n : Int} (read : plainInteger text = .ok n) :
    n < 10 ^ maxDigits := by
  have small {c : Char} (digit : isDigit c = true) : c.toNat - '0'.toNat < 10 := by
    simp only [isDigit, Bool.and_eq_true, decide_eq_true_eq, Char.le_def,
      UInt32.le_iff_toNat_le] at digit
    have upper : c.toNat ≤ 57 := digit.2
    have zero : '0'.toNat = 48 := rfl
    omega
  have widened {value : Nat} (below : value < 10 ^ maxDigits) : (value : Int) < 10 ^ maxDigits := by
    -- Else the power of the limit is evaluated.
    generalize maxDigits = limit at below
    exact_mod_cast below
  unfold plainInteger at read
  split at read
  next negative body sign =>
  have shorter : body.length ≤ text.length := by
    split at sign <;> obtain ⟨-, rfl⟩ := Prod.mk.inj sign <;> simp
  dsimp only at read
  split_ifs at read with zero alone long malformed
  · obtain rfl := Except.ok.inj read
    positivity
  · simp only [Bool.or_eq_true, decide_eq_true_eq, not_or] at malformed
    have few : (body.takeWhile isDigit).length ≤ maxDigits := by
      have part := (List.takeWhile_sublist (l := body) isDigit).length_le
      omega
    have value : ofDigits ((body.takeWhile isDigit).map fun c => c.toNat - '0'.toNat) <
        10 ^ ((body.takeWhile isDigit).map fun c => c.toNat - '0'.toNat).length := by
      refine ofDigits_lt fun d inside => ?_
      obtain ⟨c, digit, rfl⟩ := List.mem_map.mp inside
      exact small (List.mem_takeWhile_imp digit)
    rw [List.length_map] at value
    have bounded := value.trans_le (Nat.pow_le_pow_right (by decide) few)
    obtain rfl := Except.ok.inj read
    exact (signed_le negative _).trans_lt (widened bounded)

theorem Scalar.parseInt_lt {text : String} {n : Int} (read : parseInt text = .ok n) :
    n < 10 ^ maxDigits := by
  unfold parseInt at read
  split at read
  next value found =>
    obtain rfl := Except.ok.inj read
    unfold looseInteger at found
    split at found
    next =>
      split at found
      next number _ => exact plainInteger_lt found
      next => contradiction
    next => exact plainInteger_lt found
  next => contradiction
  next => contradiction

theorem Settings.maxCodeLength_lt {environment : List (String × String)} {envFile : Option String}
    {settings : Settings} (loaded : Settings.load environment envFile = .ok settings) :
    settings.maxCodeLength < 10 ^ maxDigits := by
  -- The default is small, and what is set has no more digits than are read.
  have field {value? : Option String} {n : Int}
      (read : toField "MAX_CODE_LENGTH" (.ok defaults.maxCodeLength) parseInt value? = .ok n) :
      n < 10 ^ maxDigits := by
    cases value? with
    | none =>
      obtain rfl : defaults.maxCodeLength = n := by simpa [toField, under] using read
      calc
        (50000 : Int) < 10 ^ 5 := by decide
        _ ≤ 10 ^ maxDigits := pow_le_pow_right₀ (by decide) (by decide)
    | some value =>
      simp only [toField] at read
      cases parsed : parseInt value with
      | error => simp [parsed, under] at read
      | ok m =>
        obtain rfl : m = n := by simpa [parsed, under] using read
        exact parseInt_lt parsed
  unfold load ofSources at loaded
  simp only [Except.map] at loaded
  split at loaded
  next => contradiction
  next values read =>
    simp only [both_eq_ok_iff] at read
    obtain rfl := Except.ok.inj loaded
    exact field read.2.2.2.2.2.2.1

end SnippetGauge
