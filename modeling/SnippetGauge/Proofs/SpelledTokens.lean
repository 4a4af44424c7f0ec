import Mathlib.Data.List.TakeWhile
import SnippetGauge.Proofs.BlockComments
import SnippetGauge.Proofs.TokenLines
import SnippetGauge.Service.Endpoint

set_option autoImplicit false

namespace SnippetGauge

open Text

/-- A way to put characters in the place of halves that no pass over a text can tell from another. -/
structure Mark.Carries (carry : Mark → Char) : Prop where
  char : ∀ c, carry (.char c) = c
  half : ∀ unit isHalf, 0xF0000 ≤ (carry (.half unit isHalf)).toNat

/-- Of a code the same is kept, whatever is in the place of its halves. -/
def Uniform (pass : Text → Text) : Prop :=
  ∀ code : List Mark, ∃ kept : List Mark, kept.Sublist code ∧
    ∀ carry, Mark.Carries carry → pass (code.map carry) = kept.map carry

def UniformParts (cut : Text → List Text) : Prop :=
  ∀ code : List Mark, ∃ parts : List (List Mark), parts.flatten.Sublist code ∧
    ∀ carry, Mark.Carries carry → cut (code.map carry) = parts.map (List.map carry)

namespace Mark

variable {carry : Mark → Char} {mark : Mark} {code : List Mark} {c : Char}

theorem carries_near : Carries near where
  char _ := rfl
  half unit isHalf := by
    rw [near, toNat_standIn_half isHalf (Nat.le_refl _) (by decide)]
    exact Nat.le_add_right _ _

theorem carries_far : Carries far where
  char _ := rfl
  half unit isHalf := by
    rw [far, toNat_standIn_half isHalf (by decide) (Nat.le_refl _)]
    omega

theorem Carries.eq_iff (carries : Carries carry) (low : c.toNat < 0xF0000) :
    carry mark = c ↔ mark = .char c := by
  cases mark with
  | char d => simp [carries.char]
  | half unit isHalf =>
    have high := carries.half unit isHalf
    have other : carry (.half unit isHalf) ≠ c := by
      intro same
      rw [same] at high
      omega
    simp [other]

theorem Carries.map_eq_cons_iff (carries : Carries carry) (low : c.toNat < 0xF0000) {rest : Text} :
    code.map carry = c :: rest ↔ ∃ later, code = .char c :: later ∧ later.map carry = rest := by
  simp [List.map_eq_cons_iff, carries.eq_iff low]

theorem Carries.map_char (carries : Carries carry) (text : Text) :
    (text.map Mark.char).map carry = text := by
  simp [Function.comp_def, carries.char]

theorem Carries.map_eq_iff (carries : Carries carry) {text : Text}
    (low : ∀ c ∈ text, c.toNat < 0xF0000) : code.map carry = text ↔ code = text.map .char := by
  constructor
  next =>
    rintro rfl
    have each (mark : Mark) (inside : mark ∈ code) : (Mark.char ∘ carry) mark = id mark :=
      ((carries.eq_iff (low _ (List.mem_map_of_mem inside))).mp rfl).symm
    rw [List.map_map, List.map_congr_left each, List.map_id]
  next =>
    rintro rfl
    exact carries.map_char text

theorem Carries.infix_iff (carries : Carries carry) {text : Text}
    (low : ∀ c ∈ text, c.toNat < 0xF0000) :
    text <:+: code.map carry ↔ text.map Mark.char <:+: code := by
  constructor
  next =>
    rintro ⟨before, after, whole⟩
    obtain ⟨front, last, rfl, fronts, -⟩ := List.map_eq_append_iff.mp whole.symm
    obtain ⟨first, middle, rfl, -, middles⟩ := List.map_eq_append_iff.mp fronts
    rw [(carries.map_eq_iff low).mp middles]
    exact ⟨first, last, rfl⟩
  next =>
    intro within
    have carried := within.map carry
    rwa [carries.map_char] at carried

theorem Carries.mem_iff (carries : Carries carry) (low : c.toNat < 0xF0000) :
    c ∈ code.map carry ↔ .char c ∈ code := by
  simp [carries.eq_iff low]

theorem Carries.no_mark (carries : Carries carry) {first second : Char}
    (low : first.toNat < 0xF0000) (lowToo : second.toNat < 0xF0000)
    (other : ∀ more, mark.near = first → code.map near = second :: more → False) :
    ∀ more, carry mark = first → code.map carry = second :: more → False := by
  intro more begins goes
  obtain ⟨later, rfl, -⟩ := (carries.map_eq_cons_iff lowToo).mp goes
  rw [carries.eq_iff low] at begins
  subst begins
  exact other (later.map near) rfl rfl

theorem Carries.closesBlock_eq (carries : Carries carry) (code : List Mark) :
    closesBlock (code.map carry) = closesBlock (code.map near) := by
  have low : ∀ c ∈ ['*', '/'], c.toNat < 0xF0000 := by simp
  rw [Bool.eq_iff_iff, closesBlock_iff, closesBlock_iff, carries.infix_iff low,
    carries_near.infix_iff low]

theorem induct_codeLines {motive : List Mark → Prop}
    (last : ∀ code, .char '\n' ∉ code → motive code)
    (above : ∀ line rest, .char '\n' ∉ line → motive rest → motive (line ++ .char '\n' :: rest))
    (code : List Mark) : motive code := by
  generalize same : code.map near = source
  induction source using induct_lines generalizing code with
  | last line single =>
    rw [← same, carries_near.mem_iff (by decide)] at single
    exact last code single
  | above line rest single ih =>
    obtain ⟨front, below, rfl, rfl, next⟩ := List.map_eq_append_iff.mp same
    obtain ⟨later, rfl, rfl⟩ := (carries_near.map_eq_cons_iff (by decide)).mp next
    rw [carries_near.mem_iff (by decide)] at single
    exact above front later single (ih later rfl)

end Mark

open Mark

theorem uniform_eraseBlocksFrom (inside : Bool) : Uniform (eraseBlocksFrom inside) := by
  intro code
  generalize same : code.map near = text
  fun_induction eraseBlocksFrom inside text generalizing code with
  | case1 inside =>
    obtain rfl := List.map_eq_nil_iff.mp same
    exact ⟨[], .refl _, fun _ _ => by simp [eraseBlocksFrom]⟩
  | case2 rest ih =>
    obtain ⟨_, rfl, next⟩ := (carries_near.map_eq_cons_iff (by decide)).mp same
    obtain ⟨later, rfl, behind⟩ := (carries_near.map_eq_cons_iff (by decide)).mp next
    obtain ⟨kept, within, erased⟩ := ih later behind
    refine ⟨kept, (within.cons _).cons _, fun carry carries => ?_⟩
    simp only [List.map_cons, carries.char, eraseBlocksFrom, erased carry carries]
  | case3 rest ih =>
    obtain ⟨later, rfl, behind⟩ := (carries_near.map_eq_cons_iff (by decide)).mp same
    obtain ⟨kept, within, erased⟩ := ih later behind
    refine ⟨.char '\n' :: kept, within.cons_cons _, fun carry carries => ?_⟩
    simp only [List.map_cons, carries.char, eraseBlocksFrom_break, erased carry carries]
  | case4 c rest other single ih =>
    obtain ⟨mark, later, rfl, rfl, rfl⟩ := List.map_eq_cons_iff.mp same
    obtain ⟨kept, within, erased⟩ := ih later rfl
    refine ⟨kept, within.cons _, fun carry carries => ?_⟩
    have unbroken : carry mark = '\n' → False := by
      rw [carries.eq_iff (by decide)]
      rintro rfl
      exact single rfl
    rw [List.map_cons, eraseBlocksFrom, erased carry carries]
    · exact carries.no_mark (by decide) (by decide) other
    · exact unbroken
  | case5 rest closes ih =>
    obtain ⟨_, rfl, next⟩ := (carries_near.map_eq_cons_iff (by decide)).mp same
    obtain ⟨later, rfl, rfl⟩ := (carries_near.map_eq_cons_iff (by decide)).mp next
    obtain ⟨kept, within, erased⟩ := ih later rfl
    refine ⟨kept, (within.cons _).cons _, fun carry carries => ?_⟩
    rw [← carries.closesBlock_eq] at closes
    simp only [List.map_cons, carries.char, eraseBlocksFrom, closes, if_true, erased carry carries]
  | case6 rest closes =>
    obtain ⟨_, rfl, next⟩ := (carries_near.map_eq_cons_iff (by decide)).mp same
    obtain ⟨later, rfl, rfl⟩ := (carries_near.map_eq_cons_iff (by decide)).mp next
    refine ⟨_, .refl _, fun carry carries => ?_⟩
    rw [← carries.closesBlock_eq] at closes
    simp only [List.map_cons, carries.char, eraseBlocksFrom, if_neg closes]
  | case7 c rest other ih =>
    obtain ⟨mark, later, rfl, rfl, rfl⟩ := List.map_eq_cons_iff.mp same
    obtain ⟨kept, within, erased⟩ := ih later rfl
    refine ⟨mark :: kept, within.cons_cons _, fun carry carries => ?_⟩
    rw [List.map_cons, eraseBlocksFrom, erased carry carries, List.map_cons]
    exact carries.no_mark (by decide) (by decide) other

theorem uniform_beforeSlashes : Uniform beforeSlashes := by
  intro code
  generalize same : code.map near = line
  fun_induction beforeSlashes line generalizing code with
  | case1 =>
    obtain rfl := List.map_eq_nil_iff.mp same
    exact ⟨[], .refl _, fun _ _ => by simp [beforeSlashes]⟩
  | case2 rest =>
    obtain ⟨_, rfl, next⟩ := (carries_near.map_eq_cons_iff (by decide)).mp same
    obtain ⟨later, rfl, -⟩ := (carries_near.map_eq_cons_iff (by decide)).mp next
    refine ⟨[], List.nil_sublist _, fun carry carries => ?_⟩
    simp only [List.map_cons, carries.char, beforeSlashes, List.map_nil]
  | case3 c rest other ih =>
    obtain ⟨mark, later, rfl, rfl, rfl⟩ := List.map_eq_cons_iff.mp same
    obtain ⟨kept, within, cut⟩ := ih later rfl
    refine ⟨mark :: kept, within.cons_cons _, fun carry carries => ?_⟩
    rw [List.map_cons, beforeSlashes, cut carry carries, List.map_cons]
    exact carries.no_mark (by decide) (by decide) other

theorem uniform_beforeHash : Uniform beforeHash := by
  intro code
  refine ⟨code.takeWhile (· != .char '#'), List.takeWhile_sublist _, fun carry carries => ?_⟩
  have hash : ((· != '#') ∘ carry) = (· != Mark.char '#') := by
    funext mark
    rw [Bool.eq_iff_iff]
    simp [carries.eq_iff]
  rw [beforeHash, List.takeWhile_map, hash]

theorem Uniform.mapLines {change : Text → Text} (uniform : Uniform change) :
    Uniform (mapLines change) := by
  intro code
  induction code using induct_codeLines with
  | last line single =>
    obtain ⟨kept, within, changed⟩ := uniform line
    refine ⟨kept, within, fun carry carries => ?_⟩
    rw [← carries.mem_iff (by decide)] at single
    rw [mapLines_of_single change single, changed carry carries]
  | above line rest single ih =>
    obtain ⟨kept, within, changed⟩ := uniform line
    obtain ⟨more, withinLater, changedLater⟩ := ih
    refine ⟨kept ++ .char '\n' :: more, within.append (withinLater.cons_cons _),
      fun carry carries => ?_⟩
    rw [← carries.mem_iff (by decide)] at single
    rw [List.map_append, List.map_cons, carries.char, mapLines_append_break change single,
      changed carry carries, changedLater carry carries, List.map_append, List.map_cons, carries.char]

theorem Uniform.comp {first second : Text → Text} (uniform : Uniform second)
    (uniformFirst : Uniform first) : Uniform fun source => second (first source) := by
  intro code
  obtain ⟨kept, within, passed⟩ := uniformFirst code
  obtain ⟨rest, withinKept, passedOn⟩ := uniform kept
  refine ⟨rest, withinKept.trans within, fun carry carries => ?_⟩
  simp only [passed carry carries, passedOn carry carries]

theorem uniform_stripComments (language : Language) : Uniform (stripComments · language) := by
  have blocks : Uniform stripSlashComments :=
    uniform_beforeSlashes.mapLines.comp (uniform_eraseBlocksFrom false)
  cases language with
  | cpp | java => exact blocks
  | python => exact uniform_beforeHash.mapLines
  | unidentified => exact fun code => ⟨code, .refl _, fun _ _ => rfl⟩

theorem isBlank_of_high {c : Char} (high : 0xF0000 ≤ c.toNat) : isBlank c = false := by
  simp only [isBlank, Bool.or_eq_false_iff, Bool.and_eq_false_iff, decide_eq_false_iff_not,
    beq_eq_false_iff_ne]
  omega

theorem isPunctuation_of_high {c : Char} (high : 0xF0000 ≤ c.toNat) : isPunctuation c = false := by
  rw [Bool.eq_false_iff]
  intro marks
  have low : ∀ d ∈ [';', '\x7b', '\x7d', '(', ')', '[', ']', '.', ','] ++
      ['+', '-', '*', '/', '%', '=', '&', '|', '^', '<', '>', '!', '~', '?', ':'],
      d.toNat < 0xF0000 := by simp
  simp only [isPunctuation, isDelimiterChar, isOperatorChar, Bool.or_eq_true,
    List.contains_iff_mem, ← List.mem_append] at marks
  exact absurd (low c marks) (Nat.not_lt.mpr high)

theorem Mark.Carries.test_eq {carry : Mark → Char} (carries : Carries carry) {test : Char → Bool}
    (fails : ∀ {c : Char}, 0xF0000 ≤ c.toNat → test c = false) (mark : Mark) :
    test (carry mark) = test mark.near := by
  cases mark with
  | char c => rw [carries.char, carries_near.char]
  | half unit isHalf =>
    rw [fails (carries.half unit isHalf), fails (carries_near.half unit isHalf)]

theorem map_consWord {α β : Type} (f : α → β) (word : List α) (later : List (List α)) :
    consWord (word.map f) (later.map (List.map f)) = (consWord word later).map (List.map f) := by
  cases word <;> rfl

theorem uniform_splitPieces (code : List Mark) :
    ∃ (word : List Mark) (later : List (List Mark)), (word ++ later.flatten).Sublist code ∧
      ∀ carry, Carries carry →
        splitPieces (code.map carry) = (word.map carry, later.map (List.map carry)) := by
  induction code with
  | nil => exact ⟨[], [], .refl _, fun _ _ => rfl⟩
  | cons mark rest ih =>
    obtain ⟨word, later, within, split⟩ := ih
    have blank (carry : Mark → Char) (carries : Carries carry) :=
      carries.test_eq isBlank_of_high mark
    have marks (carry : Mark → Char) (carries : Carries carry) :=
      carries.test_eq isPunctuation_of_high mark
    by_cases white : isBlank mark.near = true
    next =>
      refine ⟨[], consWord word later, ?_, fun carry carries => ?_⟩
      · simpa [flatten_consWord] using within.cons mark
      · simp [splitPieces, split carry carries, blank carry carries, white, map_consWord]
    next =>
      by_cases single : isPunctuation mark.near = true
      next =>
        refine ⟨[], [mark] :: consWord word later, ?_, fun carry carries => ?_⟩
        · simpa [flatten_consWord] using within.cons_cons mark
        · simp [splitPieces, split carry carries, blank carry carries, white,
            marks carry carries, single, map_consWord]
      next =>
        refine ⟨mark :: word, later, within.cons_cons mark, fun carry carries => ?_⟩
        simp [splitPieces, split carry carries, blank carry carries, white, marks carry carries,
          single]

theorem uniformParts_pieces : UniformParts pieces := by
  intro code
  obtain ⟨word, later, within, split⟩ := uniform_splitPieces code
  refine ⟨consWord word later, by simpa [flatten_consWord] using within, fun carry carries => ?_⟩
  simp only [pieces, split carry carries, map_consWord]

theorem UniformParts.flatMap_lines {cut : Text → List Text} (uniform : UniformParts cut) :
    UniformParts fun source => (lines source).flatMap cut := by
  intro code
  induction code using induct_codeLines with
  | last line single =>
    obtain ⟨parts, within, cuts⟩ := uniform line
    refine ⟨parts, within, fun carry carries => ?_⟩
    rw [← carries.mem_iff (by decide)] at single
    simp only [lines_eq_singleton single, List.flatMap_singleton, cuts carry carries]
  | above line rest single ih =>
    obtain ⟨parts, within, cuts⟩ := uniform line
    obtain ⟨more, withinLater, cutsLater⟩ := ih
    refine ⟨parts ++ more, ?_, fun carry carries => ?_⟩
    · rw [List.flatten_append]
      exact within.append (withinLater.cons _)
    · rw [← carries.mem_iff (by decide)] at single
      simp only [List.map_append, List.map_cons, carries.char, lines_append_break single,
        List.flatMap_cons, cuts carry carries, cutsLater carry carries]

theorem UniformParts.comp {cut : Text → List Text} {pass : Text → Text}
    (uniform : UniformParts cut) (uniformPass : Uniform pass) :
    UniformParts fun source => cut (pass source) := by
  intro code
  obtain ⟨kept, within, passed⟩ := uniformPass code
  obtain ⟨parts, withinKept, cuts⟩ := uniform kept
  refine ⟨parts, withinKept.trans within, fun carry carries => ?_⟩
  simp only [passed carry carries, cuts carry carries]

namespace Service

theorem tokenTexts_eq (source : Text) (language : Language) :
    tokenTexts source language = (lines (stripComments source language)).flatMap pieces := by
  have each (number : Nat) (line : Text) :
      (tokenizeLine language number line).map Token.value = pieces line := by
    simp [tokenizeLine, Function.comp_def]
  simp only [tokenTexts, tokenize, List.map_flatMap, each]
  generalize lines (stripComments source language) = source
  rw [← List.flatMap_map, List.zipIdx_map_fst]

theorem uniformParts_tokenTexts (language : Language) : UniformParts (tokenTexts · language) := by
  simp only [tokenTexts_eq]
  exact uniformParts_pieces.flatMap_lines.comp (uniform_stripComments language)

theorem zipWith_restore (parts : List (List Mark)) :
    List.zipWith (List.zipWith restore) (parts.map (List.map near)) (parts.map (List.map far)) =
      parts := by
  simp [List.zipWith_map, List.zipWith_self, restore_near_far]

/-- The tokens are those of the code itself: whatever stands in for its halves, the tokens are
spelled with it, and no character of the code is taken for a half. -/
theorem spelledTokens_carried (code : List Mark) (language : Language) :
    (spelledTokens code language).flatten.Sublist code ∧
      ∀ carry, Carries carry →
        tokenTexts (code.map carry) language = (spelledTokens code language).map (List.map carry) := by
  obtain ⟨parts, within, cuts⟩ := uniformParts_tokenTexts language code
  have nearTexts : tokenTexts (code.map near) language = _ := cuts near carries_near
  have farTexts : tokenTexts (code.map far) language = _ := cuts far carries_far
  rw [spelledTokens, nearTexts, farTexts, zipWith_restore]
  exact ⟨within, cuts⟩

theorem spelledTokens_map_char (code : Text) (language : Language) :
    spelledTokens (code.map .char) language = (tokenTexts code language).map (List.map .char) := by
  have nearText := carries_near.map_char code
  have farText := carries_far.map_char code
  simp [spelledTokens, nearText, farText, List.zipWith_self, restore]

end Service

end SnippetGauge
