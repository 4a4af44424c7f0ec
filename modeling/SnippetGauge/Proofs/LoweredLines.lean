import SnippetGauge.Proofs.BlankRuns

set_option autoImplicit false

namespace SnippetGauge.Text

section

variable {c : Char} (blank : isBlank c = true)

include blank

theorem smallLetter_of_isBlank : smallLetter c = c :=
  of_isBlank (fun c => smallLetter c = c) (by decide) blank

theorem nextToCased_append_blank (near far : Text) :
    nextToCased (near ++ c :: far) = nextToCased near := by
  have marks : caselessMarkRanges.has c = false :=
    of_isBlank (caselessMarkRanges.has · = false) (by decide +kernel) blank
  have cased : casedRanges.has c = false :=
    of_isBlank (casedRanges.has · = false) (by decide) blank
  unfold nextToCased
  rw [List.find?_append]
  cases near.find? fun c => !caselessMarkRanges.has c with
  | some c => rfl
  | none => simp [marks, cased]

theorem lowerAfter_append_blank (near far text : Text) :
    lowerAfter (near ++ c :: far) text = lowerAfter near text := by
  induction text generalizing near with
  | nil => rfl
  | cons d rest ih =>
    rw [lowerAfter, lowerAfter, ← List.cons_append, ih]
    simp only [lowerSigma, nextToCased_append_blank blank]

theorem lowerAfter_blank (near rest : Text) :
    lowerAfter near (c :: rest) = c :: lower rest := by
  have sigma : c ≠ 'Σ' := ne_of_isBlank blank (by decide)
  have dotted : c ≠ 'İ' := ne_of_isBlank blank (by decide)
  have later : lowerAfter (c :: near) rest = lower rest :=
    lowerAfter_append_blank blank [] near rest
  rw [lowerAfter, if_neg (by simpa using sigma), if_neg (by simpa using dotted),
    smallLetter_of_isBlank blank, later]
  rfl

theorem lower_append_blank (before after : Text) :
    lower (before ++ c :: after) = lower before ++ c :: lower after := by
  have whole (near : Text) :
      lowerAfter near (before ++ c :: after) = lowerAfter near before ++ c :: lower after := by
    induction before generalizing near with
    | nil => exact lowerAfter_blank blank near after
    | cons d rest ih =>
      rw [List.cons_append, lowerAfter, ih, lowerAfter, List.append_assoc]
      simp only [lowerSigma, nextToCased_append_blank blank]
  exact whole []

end

theorem smallLetter_of_wide {c : Char} (wide : 128 ≤ c.toNat) :
    smallLetter c = c ∨ ∃ run ∈ capitalRuns, ∃ k < run.last + 1 - run.first,
      run.first + k = c.toNat ∧
        smallLetter c = Char.ofNat (((run.first + k : Nat) : Int) + run.shift).toNat := by
  rw [smallLetter, if_neg (by omega)]
  cases found : capitalRuns.find? (·.has c) with
  | none => exact .inl rfl
  | some run =>
    have has := List.find?_some found
    simp only [CapitalRun.has, Bool.and_eq_true, decide_eq_true_eq] at has
    refine .inr ⟨run, List.mem_of_find?_eq_some found, c.toNat - run.first, by omega, by omega, ?_⟩
    rw [Nat.add_sub_cancel' has.1.1]

theorem isBlank_smallLetter {c : Char} (filled : isBlank c = false) :
    isBlank (smallLetter c) = false := by
  have ascii : ∀ n < 128, isBlank (Char.ofNat n) = false →
      isBlank (smallLetter (Char.ofNat n)) = false := by
    decide +kernel
  have wide : ∀ run ∈ capitalRuns, ∀ k < run.last + 1 - run.first,
      isBlank (Char.ofNat (((run.first + k : Nat) : Int) + run.shift).toNat) = false := by
    decide +kernel
  by_cases small : c.toNat < 128
  next =>
    have here := ascii c.toNat small
    rw [Char.ofNat_toNat] at here
    exact here filled
  next =>
    rcases smallLetter_of_wide (not_lt.mp small) with same | ⟨run, listed, k, bound, _, shifted⟩
    next => rw [same, filled]
    next => rw [shifted, wide run listed k bound]

theorem mem_lowerAfter {near text : Text} {d : Char} (inside : d ∈ lowerAfter near text) :
    d ∈ ['ς', 'σ', 'i', Char.ofNat 0x307] ∨ ∃ c ∈ text, d = smallLetter c := by
  induction text generalizing near with
  | nil => simp [lowerAfter] at inside
  | cons c rest ih =>
    rw [lowerAfter, List.mem_append] at inside
    rcases inside with here | later
    next =>
      split at here
      next =>
        obtain rfl := List.mem_singleton.mp here
        unfold lowerSigma
        split <;> simp
      next =>
        split at here
        next =>
          refine .inl ?_
          simp only [List.mem_cons, List.not_mem_nil, or_false] at here ⊢
          exact .inr (.inr here)
        next => exact .inr ⟨c, List.mem_cons_self, List.mem_singleton.mp here⟩
    next =>
      rcases ih later with special | ⟨e, there, same⟩
      next => exact .inl special
      next => exact .inr ⟨e, List.mem_cons_of_mem _ there, same⟩

theorem isBlank_of_mem_lower {text : Text} (filled : ∀ c ∈ text, isBlank c = false) :
    ∀ d ∈ lower text, isBlank d = false := by
  have specials : ['ς', 'σ', 'i', Char.ofNat 0x307].all (!isBlank ·) = true := by decide
  intro d inside
  rcases mem_lowerAfter inside with special | ⟨c, there, rfl⟩
  next => simpa using List.all_eq_true.mp specials d special
  next => exact isBlank_smallLetter (filled c there)

theorem break_notMem_lower {text : Text} (single : '\n' ∉ text) : '\n' ∉ lower text := by
  intro inside
  rcases mem_lowerAfter inside with special | ⟨c, there, same⟩
  next => exact absurd special (by decide)
  next =>
    by_cases blank : isBlank c = true
    next =>
      rw [smallLetter_of_isBlank blank] at same
      exact single (same ▸ there)
    next =>
      have filled := isBlank_smallLetter (by simpa using blank)
      rw [← same] at filled
      exact absurd filled (by decide)

theorem lower_ne_nil {text : Text} (filled : text ≠ []) : lower text ≠ [] := by
  cases text with
  | nil => contradiction
  | cons c rest =>
    rw [lower, lowerAfter]
    split
    next => simp
    next => split <;> simp

theorem lines_lower (text : Text) : lines (lower text) = (lines text).map lower := by
  induction text using induct_lines with
  | last line single =>
    rw [lines_eq_singleton (break_notMem_lower single), lines_eq_singleton single,
      List.map_singleton]
  | above line rest single ih =>
    rw [lower_append_blank rfl, lines_append_break (break_notMem_lower single), ih,
      lines_append_break single, List.map_cons]

theorem sparesBlanks_lower : SparesBlanks lower where
  front _ line blank := .inr (lower_append_blank blank [] line)
  back _ line blank := .inr (lower_append_blank blank line [])

end SnippetGauge.Text

namespace SnippetGauge.Margins

open Text

theorem SameBetween.lower {margins : Margins} {first second : Text}
    (same : margins.SameBetween first second) :
    margins.SameBetween (lower first) (lower second) := by
  unfold SameBetween
  rw [lines_lower, lines_lower, List.map_map, List.map_map]
  exact (sparesBlanks_lower.ignoredBy margins).map_congr same

end SnippetGauge.Margins
