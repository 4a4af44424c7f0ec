import Mathlib.Algebra.Order.BigOperators.Group.List
import Mathlib.Algebra.Order.Group.Int
import Mathlib.Algebra.Ring.Int.Defs
import SnippetGauge.Detection
import SnippetGauge.Proofs.LineMatches

set_option autoImplicit false

namespace SnippetGauge

open Text

namespace Pattern

variable {p : Pattern} {inner text : Text}

theorem startsText_iff : p.startsText text = true ↔ ∃ rest, rest ∈ p.rests text := by
  unfold startsText
  rw [Bool.not_eq_true', List.isEmpty_eq_false_iff_exists_mem]

theorem startsText_append (starts : p.startsText text = true) (more : Text) :
    p.startsText (text ++ more) = true := by
  obtain ⟨rest, left⟩ := startsText_iff.mp starts
  exact startsText_iff.mpr ⟨rest ++ more, rests_append left more⟩

theorem occursIn_iff_suffix :
    p.occursIn text = true ↔ ∃ rest, rest <:+ text ∧ p.startsText rest = true := by
  induction text with
  | nil => simp [occursIn]
  | cons c text ih =>
    rw [occursIn, Bool.or_eq_true, ih]
    simp only [List.suffix_cons_iff, or_and_right, exists_or, exists_eq_left]

theorem occursIn_of_infix (within : inner <:+: text) (found : p.occursIn inner = true) :
    p.occursIn text = true := by
  obtain ⟨before, after, rfl⟩ := within
  obtain ⟨rest, ⟨front, rfl⟩, starts⟩ := occursIn_iff_suffix.mp found
  exact occursIn_iff_suffix.mpr ⟨rest ++ after, ⟨before ++ front, by simp⟩,
    startsText_append starts after⟩

theorem mem_rests_literal {word rest : Text} :
    rest ∈ (literal word).rests text ↔ text = word ++ rest := by
  induction word generalizing text with
  | nil => simp [literal, all, rests, eq_comm]
  | cons d word ih =>
    have split : literal (d :: word) = seq (char d) (literal word) := rfl
    cases text with
    | nil => simp [split, rests, char]
    | cons c text => by_cases same : c = d <;> simp [split, rests, char, same, ih]

theorem occursIn_literal {word : Text} :
    (literal word).occursIn text = true ↔ word <:+: text := by
  simp only [occursIn_iff_suffix, startsText_iff, mem_rests_literal]
  constructor
  next =>
    rintro ⟨_, ends, rest, rfl⟩
    exact (List.prefix_append word rest).isInfix.trans ends.isInfix
  next =>
    rintro ⟨before, after, rfl⟩
    exact ⟨word ++ after, ⟨before, by simp⟩, after, rfl⟩

end Pattern

def Bonus.Lasts (bonus : Bonus) : Prop :=
  ∀ inner text, inner <:+: text → bonus.holds inner = true → bonus.holds text = true

theorem Bonus.strong_lasts (p : Pattern) : (Bonus.strong p).Lasts :=
  fun _ _ within found => Pattern.occursIn_of_infix within found

namespace Profile

/-- Nothing counts against the language, and no text around a code takes a point away. -/
structure OnlyGains (profile : Profile) : Prop where
  negatives : profile.negatives = []
  weights : ∀ bonus ∈ profile.bonuses, 0 ≤ bonus.weight
  bonuses : ∀ bonus ∈ profile.bonuses, bonus.Lasts

section

variable {profile : Profile} {code inner text : Text}

theorem bonusPoints_eq_sum :
    profile.bonusPoints code = ((profile.bonuses.filter (·.holds code)).map (·.weight)).sum := by
  rw [bonusPoints, List.sum_eq_foldl, List.foldl_map]

theorem keywordPoints_mono (within : inner <:+: text) :
    profile.keywordPoints inner ≤ profile.keywordPoints text := by
  have more : profile.keywords.countP (fun keyword => occursIn keyword.toList inner) ≤
      profile.keywords.countP (fun keyword => occursIn keyword.toList text) := by
    apply List.countP_mono_left
    intro keyword _ found
    have inside := occursIn_iff_infix.mp found
    exact occursIn_iff_infix.mpr (inside.trans within)
  unfold keywordPoints
  omega

namespace OnlyGains

variable (gains : profile.OnlyGains)

include gains

theorem points_eq (code : Text) :
    profile.points code = profile.keywordPoints code + profile.bonusPoints code := by
  simp [points, negativePoints, gains.negatives]

theorem weight_nonneg {weight : Int}
    (listed : weight ∈ (profile.bonuses.filter (·.holds code)).map (·.weight)) : 0 ≤ weight := by
  obtain ⟨bonus, kept, rfl⟩ := List.mem_map.mp listed
  exact gains.weights bonus (List.mem_of_mem_filter kept)

theorem bonusPoints_mono (within : inner <:+: text) :
    profile.bonusPoints inner ≤ profile.bonusPoints text := by
  have kept : (profile.bonuses.filter (·.holds inner)).Sublist
      (profile.bonuses.filter (·.holds text)) := by
    -- Each bonus that the smaller text has earned, the larger one has earned as well.
    have both : profile.bonuses.filter (·.holds inner) =
        (profile.bonuses.filter (·.holds text)).filter (·.holds inner) := by
      rw [List.filter_filter]
      refine List.filter_congr fun bonus listed => ?_
      rw [Bool.eq_iff_iff, Bool.and_eq_true, iff_self_and]
      exact gains.bonuses bonus listed inner text within
    rw [both]
    exact List.filter_sublist
  rw [bonusPoints_eq_sum, bonusPoints_eq_sum]
  exact (kept.map _).sum_le_sum fun _ => gains.weight_nonneg

theorem points_mono (within : inner <:+: text) : profile.points inner ≤ profile.points text := by
  rw [gains.points_eq, gains.points_eq]
  exact add_le_add (keywordPoints_mono within) (gains.bonusPoints_mono within)

theorem points_nonneg (code : Text) : 0 ≤ profile.points code := by
  have bonuses : 0 ≤ profile.bonusPoints code := by
    rw [bonusPoints_eq_sum]
    exact List.sum_nonneg fun _ => gains.weight_nonneg
  rw [gains.points_eq, keywordPoints]
  omega

theorem weight_le_points {bonus : Bonus} (listed : bonus ∈ profile.bonuses)
    (earned : bonus.holds code = true) : bonus.weight ≤ profile.points code := by
  have counted : bonus.weight ≤ profile.bonusPoints code := by
    rw [bonusPoints_eq_sum]
    exact List.single_le_sum (fun _ => gains.weight_nonneg) _
      (List.mem_map_of_mem (List.mem_filter.mpr ⟨listed, earned⟩))
  rw [gains.points_eq, keywordPoints]
  omega

end OnlyGains

end

theorem cpp_onlyGains : cpp.OnlyGains where
  negatives := rfl
  weights bonus listed := by
    simp only [cpp, List.mem_cons, List.not_mem_nil, or_false] at listed
    rcases listed with rfl | rfl <;> decide
  bonuses bonus listed := by
    simp only [cpp, List.mem_cons, List.not_mem_nil, or_false] at listed
    rcases listed with rfl | rfl
    next => exact Bonus.strong_lasts _
    next => exact Bonus.strong_lasts _

end Profile

def ShowsCpp (code : Text) : Prop :=
  "#include".toList <:+: code ∨ Pattern.cppMain.occursIn code = true

theorem five_le_points_of_showsCpp {code : Text} (shows : ShowsCpp code) :
    5 ≤ Profile.cpp.points code := by
  have gains := Profile.cpp_onlyGains
  rcases shows with includes | declares
  next =>
    have listed : Bonus.strong (.literal "#include".toList) ∈ Profile.cpp.bonuses :=
      List.mem_cons_self
    exact gains.weight_le_points listed (Pattern.occursIn_literal.mpr includes)
  next =>
    have listed : Bonus.strong .cppMain ∈ Profile.cpp.bonuses :=
      List.mem_cons_of_mem _ List.mem_cons_self
    exact gains.weight_le_points listed declares

namespace Scores

variable {scores : Scores}

theorem winner_ne_unidentified (enough : 3 ≤ scores.cpp) : scores.winner ≠ .unidentified := by
  have best : ¬ scores.best < 3 := by
    unfold Scores.best
    omega
  rw [winner, if_neg best]
  split
  next => decide
  next => split <;> decide

theorem cpp_lt_of_winner :
    (scores.winner = .java → scores.cpp < scores.java) ∧
      (scores.winner = .python → scores.cpp < scores.python) := by
  rw [winner]
  by_cases few : scores.best < 3
  next => simp [few]
  next =>
    by_cases first : scores.cpp = scores.best
    next => simp only [if_neg few, if_pos first, reduceCtorEq, false_implies, and_self]
    next =>
      have behind : scores.cpp < scores.best := lt_of_le_of_ne (le_max_left _ _) first
      by_cases second : scores.java = scores.best
      next =>
        simp only [if_neg few, if_neg first, if_pos second, reduceCtorEq, false_implies, and_true]
        exact fun _ => second ▸ behind
      next =>
        have last : scores.python = scores.best := by
          unfold best at first second ⊢
          omega
        simp only [if_neg few, if_neg first, if_neg second, reduceCtorEq, false_implies, true_and]
        exact fun _ => last ▸ behind

end Scores

/-- The evidence for C++ is never negative and grows with the text; once it holds a strong sign of
C++, the text is identified, and as another language only with a strictly higher score. -/
theorem cppEvidence_growth {source larger : Text}
    (within : normalize source <:+: normalize larger) :
    0 ≤ (score source).cpp ∧ (score source).cpp ≤ (score larger).cpp ∧
      (ShowsCpp (normalize source) →
        detect larger ≠ .unidentified ∧
          (detect larger = .java → (score larger).cpp < (score larger).java) ∧
          (detect larger = .python → (score larger).cpp < (score larger).python)) := by
  have gains := Profile.cpp_onlyGains
  have grows : (score source).cpp ≤ (score larger).cpp := gains.points_mono within
  refine ⟨gains.points_nonneg _, grows, fun shows => ⟨?_, Scores.cpp_lt_of_winner⟩⟩
  have strong : 5 ≤ (score source).cpp := five_le_points_of_showsCpp shows
  exact Scores.winner_ne_unidentified (by omega)

theorem cppEvidence_growth_quotedMain :
    let source := "int\tmain( void )".toList
    let larger := "class A: /* x */\n    def __init__(self): # int\tmain( void )".toList
    normalize source <:+: normalize larger ∧ ShowsCpp (normalize source) ∧
      0 ≤ (score source).cpp ∧ (score source).cpp ≤ (score larger).cpp ∧
      detect larger = .python ∧ (score larger).cpp < (score larger).python := by
  intro source larger
  have within : normalize source <:+: normalize larger := by decide
  have shows : ShowsCpp (normalize source) := .inr (by decide)
  have won : detect larger = .python := by decide
  obtain ⟨positive, grows, identified⟩ := cppEvidence_growth within
  exact ⟨within, shows, positive, grows, won, (identified shows).2.2 won⟩

end SnippetGauge
