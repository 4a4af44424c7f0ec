import Mathlib.Data.Bool.AllAny
import SnippetGauge.Language
import SnippetGauge.Proofs.LineMatches
import SnippetGauge.Proofs.LoweredLines

set_option autoImplicit false

namespace SnippetGauge

open Text

namespace Text

-- The small letters that only their own capitals are lowered to. The Kelvin sign is lowered to
-- a `k`, and the capital dotted I to an `i` with a dot above it.
def OwnLetter (d : Char) : Prop := d.toNat < 128 ∧ d ≠ 'i' ∧ d ≠ 'k'

instance : DecidablePred OwnLetter := fun _ => inferInstanceAs (Decidable (_ ∧ _ ∧ _))

theorem smallLetter_of_ascii {c : Char} (ascii : c.toNat < 128) : smallLetter c = c.toLower := by
  have each : ∀ n < 128, smallLetter (Char.ofNat n) = (Char.ofNat n).toLower := by decide
  have here := each c.toNat ascii
  rwa [Char.ofNat_toNat] at here

theorem toLower_of_wide {c : Char} (wide : 128 ≤ c.toNat) : c.toLower = c := by
  refine dif_neg ?_
  rintro ⟨_, upper⟩
  have small : c.toNat ≤ 'Z'.toNat := UInt32.le_iff_toNat_le.mp upper
  have letter : 'Z'.toNat < 128 := by decide
  omega

theorem not_ownLetter_of_wide {c : Char} (wide : 128 ≤ c.toNat) :
    ¬ OwnLetter (smallLetter c) := by
  have each : ∀ run ∈ capitalRuns, ∀ k < run.last + 1 - run.first, 128 ≤ run.first + k →
      ¬ OwnLetter (Char.ofNat (((run.first + k : Nat) : Int) + run.shift).toNat) := by
    decide +kernel
  rcases smallLetter_of_wide wide with same | ⟨run, listed, k, bound, whole, shifted⟩
  next =>
    rw [same]
    exact fun own => absurd own.1 (not_lt.mpr wide)
  next =>
    rw [shifted]
    exact each run listed k bound (by omega)

theorem smallLetter_eq_iff {c d : Char} (own : OwnLetter d) :
    smallLetter c = d ↔ c.toLower = d := by
  by_cases ascii : c.toNat < 128
  next => rw [smallLetter_of_ascii ascii]
  next =>
    have wide := not_lt.mp ascii
    rw [toLower_of_wide wide]
    constructor
    next =>
      rintro rfl
      exact absurd own (not_ownLetter_of_wide wide)
    next =>
      rintro rfl
      exact absurd own.1 ascii

theorem lowerAfter_eq_iff {near text small : Text} (own : ∀ d ∈ small, OwnLetter d) :
    lowerAfter near text = small ↔ text.map Char.toLower = small := by
  -- What is already read only decides the form of a sigma, which is no letter of `small`.
  induction text generalizing near small with
  | nil => rfl
  | cons c rest ih =>
    cases small with
    | nil =>
      have filled : lowerAfter near (c :: rest) ≠ [] := by
        rw [lowerAfter]
        split_ifs <;> simp
      simp [filled]
    | cons d small =>
      obtain ⟨first, others⟩ := List.forall_mem_cons.mp own
      rw [List.map_cons, List.cons.injEq, ← smallLetter_eq_iff first, ← ih others, lowerAfter]
      split_ifs with sigma dotted
      next =>
        obtain rfl : c = 'Σ' := by simpa using sigma
        have other : smallLetter 'Σ' ≠ d := by
          rintro rfl
          exact absurd first (by decide)
        have final : lowerSigma near rest ≠ d := by
          rintro rfl
          unfold lowerSigma at first
          split at first <;> exact absurd first (by decide)
        simp [other, final]
      next =>
        obtain rfl : c = 'İ' := by simpa using dotted
        -- It is lowered to an `i`, which is none of these letters, and a dot above it.
        have other : smallLetter 'İ' ≠ d := by
          rintro rfl
          exact absurd first (by decide)
        simp [other, first.2.1.symm]
      next => rw [List.singleton_append, List.cons.injEq]

end Text

namespace Language

variable {language : Language} {text : Text}

/-- The name in any ASCII letter case, with or without white space around it. -/
def WrittenIn (language : Language) (text : Text) : Prop :=
  ∃ before word after, text = before ++ word ++ after ∧ isBlankText before = true ∧
    isBlankText after = true ∧ word.map Char.toLower = language.name.toList

theorem ownLetter_of_mem_name (known : language ≠ .unidentified) :
    ∀ d ∈ language.name.toList, OwnLetter d := by
  refine List.all_iff_forall_prop.mp ?_
  cases language with
  | unidentified => contradiction
  | cpp | java | python => decide

theorem filled_of_map_toLower {word : Text}
    (named : word.map Char.toLower = language.name.toList) : ∀ c ∈ word, isBlank c = false := by
  have filled : ∀ d ∈ language.name.toList, isBlank d = false := by
    refine List.all_iff_forall_prop.mp ?_
    cases language <;> decide
  intro c inside
  rw [Bool.eq_false_iff]
  intro blank
  -- White space is no capital, so it would be a character of the name.
  have same : c.toLower = c := of_isBlank (fun c => c.toLower = c) (by decide) blank
  have listed : c ∈ language.name.toList := by
    rw [← named, ← same]
    exact List.mem_map_of_mem inside
  rw [filled c listed] at blank
  contradiction

theorem lower_trim_eq_name_iff (known : language ≠ .unidentified) :
    lower (trim text) = language.name.toList ↔ language.WrittenIn text := by
  rw [lower, lowerAfter_eq_iff (ownLetter_of_mem_name known)]
  constructor
  next =>
    intro named
    obtain ⟨before, after, blank, blankAfter, whole⟩ := Margins.wide.exists_margins text
    rw [Margins.body_wide, ← List.append_assoc] at whole
    exact ⟨before, trim text, after, whole, List.all_eq_true.mpr blank,
      List.all_eq_true.mpr blankAfter, named⟩
  next =>
    rintro ⟨before, word, after, rfl, blank, blankAfter, named⟩
    have ignored : Margins.wide.IgnoredBy trim := Margins.ignoredBy_trim
    have trimmed : trim (before ++ word ++ after) = word := by
      rw [ignored.read_append_right (List.all_eq_true.mp blankAfter),
        ignored.read_append_left (List.all_eq_true.mp blank)]
      exact trim_eq_self (filled_of_map_toLower named)
    rw [trimmed, named]

end Language

end SnippetGauge
