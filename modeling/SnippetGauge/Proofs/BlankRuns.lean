import SnippetGauge.Language
import SnippetGauge.Lint.Java
import SnippetGauge.Proofs.CallPlaces
import SnippetGauge.Proofs.LeadingBreaks
import SnippetGauge.Proofs.Margins

set_option autoImplicit false

namespace SnippetGauge

open Text

namespace Text

def withGap : Text → Text
  | [] => []
  | c :: rest => if isBlank c then c :: rest else ' ' :: c :: rest

def squeeze : Text → Text
  | [] => []
  | c :: rest => if isBlank c then withGap (squeeze rest) else c :: squeeze rest

variable {c : Char} (text : Text)

@[simp] theorem withGap_withGap : withGap (withGap text) = withGap text := by
  cases text with
  | nil => rfl
  | cons c rest =>
    have blank : isBlank ' ' = true := rfl
    cases found : isBlank c <;> simp [withGap, found, blank]

theorem withGap_cases : withGap text = text ∨ withGap text = ' ' :: text := by
  cases text with
  | nil => exact .inl rfl
  | cons c rest => cases found : isBlank c <;> simp [withGap, found]

theorem squeeze_blank (blank : isBlank c = true) :
    squeeze (c :: text) = withGap (squeeze text) := by
  rw [squeeze, if_pos blank]

theorem squeeze_filled (filled : isBlank c = false) : squeeze (c :: text) = c :: squeeze text := by
  rw [squeeze, if_neg (by simp [filled])]

theorem squeeze_append_congr {text other : Text} (same : squeeze text = squeeze other)
    (before : Text) : squeeze (before ++ text) = squeeze (before ++ other) := by
  induction before with
  | nil => exact same
  | cons c before ih => rw [List.cons_append, List.cons_append, squeeze, squeeze, ih]

theorem squeeze_append_of_blank {white : Text} (blank : isBlankText white = true)
    (blankNext : isBlank c = true) : squeeze (white ++ c :: text) = squeeze (c :: text) := by
  induction white with
  | nil => rfl
  | cons d white ih =>
    simp only [isBlankText, List.all_cons, Bool.and_eq_true] at blank ih
    rw [List.cons_append, squeeze_blank _ blank.1, ih blank.2, squeeze_blank _ blankNext,
      withGap_withGap]

theorem squeeze_cons_append_of_blank {white : Text} (blank : isBlankText white = true)
    (blankFirst : isBlank c = true) : squeeze (c :: (white ++ text)) = squeeze (c :: text) := by
  induction white with
  | nil => rfl
  | cons d white ih =>
    simp only [isBlankText, List.all_cons, Bool.and_eq_true] at blank ih
    have later := ih blank.2
    rw [squeeze_blank _ blankFirst, squeeze_blank _ blankFirst] at later ⊢
    rw [List.cons_append, squeeze_blank _ blank.1, withGap_withGap, later]

theorem squeeze_of_blank {white : Text} (blank : isBlankText white = true) :
    squeeze white = [] := by
  induction white with
  | nil => rfl
  | cons d white ih =>
    simp only [isBlankText, List.all_cons, Bool.and_eq_true] at blank ih
    rw [squeeze_blank _ blank.1, ih blank.2]
    rfl

theorem squeeze_startsBlank (blank : isBlank c = true) :
    squeeze (c :: text) = [] ∨ ∃ d more, isBlank d = true ∧ squeeze (c :: text) = d :: more := by
  rw [squeeze_blank _ blank]
  cases squeeze text with
  | nil => exact .inl rfl
  | cons d more =>
    refine .inr ?_
    by_cases already : isBlank d = true
    next => exact ⟨d, more, already, by rw [withGap, if_pos already]⟩
    next => exact ⟨' ', d :: more, rfl, by rw [withGap, if_neg already]⟩

theorem trimStart_cons_of_isBlank (blank : isBlank c = true) :
    trimStart (c :: text) = trimStart text :=
  List.dropWhile_cons_of_pos blank

theorem trimStart_cons_of_filled (filled : ¬ isBlank c = true) :
    trimStart (c :: text) = c :: text :=
  List.dropWhile_cons_of_neg filled

theorem trimStart_withGap : trimStart (withGap text) = trimStart text := by
  rcases withGap_cases text with same | gap
  next => rw [same]
  next => rw [gap, trimStart_cons_of_isBlank text rfl]

theorem trimStart_squeeze : trimStart (squeeze text) = squeeze (trimStart text) := by
  induction text with
  | nil => rfl
  | cons c rest ih =>
    by_cases blank : isBlank c = true
    next => rw [squeeze_blank _ blank, trimStart_withGap, ih, trimStart_cons_of_isBlank _ blank]
    next =>
      have filled : isBlank c = false := by simpa using blank
      rw [squeeze_filled _ filled, trimStart_cons_of_filled _ blank,
        trimStart_cons_of_filled _ blank, squeeze_filled _ filled]

theorem leadingWord_squeeze : leadingWord (squeeze text) = leadingWord text := by
  have none {c : Char} (blank : isBlank c = true) (rest : Text) : leadingWord (c :: rest) = [] :=
    List.takeWhile_cons_of_neg (by simp [isWordChar_of_isBlank blank])
  induction text with
  | nil => rfl
  | cons c rest ih =>
    by_cases blank : isBlank c = true
    next =>
      rcases squeeze_startsBlank rest blank with empty | ⟨d, more, gap, squeezed⟩
      next => rw [empty, none blank, leadingWord, List.takeWhile_nil]
      next => rw [squeezed, none gap, none blank]
    next =>
      unfold leadingWord at ih ⊢
      rw [squeeze_filled _ (by simpa using blank), List.takeWhile_cons, List.takeWhile_cons, ih]

end Text

namespace Pattern

variable {α : Type} {next : Text → Option α} {p q : Pattern} {accepts : Char → Bool}

/-- What is read behind the first match, in the order of the matches, with which it can be read. -/
def andThen (p : Pattern) (next : Text → Option α) (text : Text) : Option α :=
  (p.rests text).findSome? next

def readFirst (read : Text → Option α) : Text → Option α
  | [] => read []
  | c :: rest => (read (c :: rest)).or (readFirst read rest)

theorem andThen_nothing : nothing.andThen next = next := by
  funext text
  simp [andThen, rests]

theorem andThen_seq : (seq p q).andThen next = p.andThen (q.andThen next) := by
  funext text
  rw [andThen, andThen, rests]
  induction p.rests text with
  | nil => rfl
  | cons place later ih =>
    rw [List.flatMap_cons, List.findSome?_append, ih, List.findSome?_cons, andThen]
    cases (q.rests place).findSome? next <;> rfl

theorem andThen_alt (text : Text) :
    (alt p q).andThen next text = (p.andThen next text).or (q.andThen next text) := by
  simp [andThen, rests, List.findSome?_append]

theorem andThen_one_cons (c : Char) (rest : Text) :
    (one accepts).andThen next (c :: rest) = if accepts c then next rest else none := by
  cases found : accepts c <;> simp [andThen, rests, found]

def DropsBlanks (next : Text → Option α) : Prop :=
  ∀ c rest, isBlank c = true → next rest = none → next (c :: rest) = none

def BlindToGaps (next : Text → Option α) : Prop := ∀ text, next (squeeze text) = next text

theorem DropsBlanks.of_trimStart (drops : DropsBlanks next) {text : Text}
    (missing : next (trimStart text) = none) : next text = none := by
  induction text with
  | nil => exact missing
  | cons c rest ih =>
    by_cases blank : isBlank c = true
    next =>
      rw [trimStart_cons_of_isBlank _ blank] at missing
      exact drops c rest blank (ih missing)
    next => rwa [trimStart_cons_of_filled _ blank] at missing

theorem andThen_blanks (drops : DropsBlanks next) (text : Text) :
    blanks.andThen next text = next (trimStart text) := by
  induction text with
  | nil => simp [andThen, blanks, rests, runRests, trimStart]
  | cons c rest ih =>
    unfold andThen blanks rests at ih ⊢
    rw [runRests]
    by_cases blank : isBlank c = true
    next =>
      rw [if_pos blank, List.findSome?_append, ih, trimStart_cons_of_isBlank _ blank]
      cases found : next (trimStart rest) with
      | some value => rfl
      | none => simp [drops c rest blank (drops.of_trimStart found)]
    next => simp [if_neg blank, trimStart_cons_of_filled _ blank]

theorem andThen_someBlanks_cons (drops : DropsBlanks next) (c : Char) (rest : Text) :
    someBlanks.andThen next (c :: rest) = if isBlank c then next (trimStart rest) else none := by
  rw [someBlanks, andThen_seq, andThen_one_cons, andThen_blanks drops]

/-- What is read does not depend on how wide the gaps are, and comes after any gap. -/
structure ReadsThrough (next : Text → Option α) : Prop where
  blind : BlindToGaps next
  drops : DropsBlanks next

theorem ReadsThrough.blanks (through : ReadsThrough next) : ReadsThrough (blanks.andThen next) where
  blind text := by
    rw [andThen_blanks through.drops, andThen_blanks through.drops, trimStart_squeeze,
      through.blind]
  drops c rest blank missing := by
    rw [andThen_blanks through.drops] at missing ⊢
    rw [trimStart_cons_of_isBlank _ blank, missing]

theorem ReadsThrough.someBlanks (through : ReadsThrough next) (more : next [] = none) :
    BlindToGaps (someBlanks.andThen next) := by
  intro text
  cases text with
  | nil => rfl
  | cons c rest =>
    by_cases blank : isBlank c = true
    next =>
      have read : Pattern.someBlanks.andThen next (c :: rest) = next (trimStart rest) := by
        rw [andThen_someBlanks_cons through.drops, if_pos blank]
      have same : next (trimStart (squeeze rest)) = next (trimStart rest) := by
        rw [trimStart_squeeze, through.blind]
      rw [read, ← same]
      rcases squeeze_startsBlank rest blank with empty | ⟨d, left, gap, squeezed⟩
      next =>
        have none : trimStart (squeeze rest) = [] := by
          rw [← trimStart_withGap, ← squeeze_blank _ blank, empty]
          rfl
        rw [empty, none, more]
        rfl
      next =>
        rw [squeezed, andThen_someBlanks_cons through.drops, if_pos gap,
          ← trimStart_cons_of_isBlank left gap, ← squeezed, squeeze_blank _ blank,
          trimStart_withGap]
    next =>
      rw [squeeze_filled _ (by simpa using blank), andThen_someBlanks_cons through.drops,
        andThen_someBlanks_cons through.drops, if_neg blank, if_neg blank]

def RejectsBlanks (accepts : Char → Bool) : Prop := ∀ c, isBlank c = true → accepts c = false

theorem rejectsBlanks_beq {c : Char} (filled : isBlank c = false) : RejectsBlanks (· == c) := by
  intro d blank
  rw [beq_eq_false_iff_ne]
  rintro rfl
  simp [blank] at filled

theorem BlindToGaps.one (blind : BlindToGaps next) (rejects : RejectsBlanks accepts) :
    ReadsThrough ((one accepts).andThen next) where
  blind text := by
    cases text with
    | nil => rfl
    | cons c rest =>
      by_cases blank : isBlank c = true
      next =>
        have missing {c : Char} (blank : isBlank c = true) (rest : Text) :
            (Pattern.one accepts).andThen next (c :: rest) = none := by
          simp [andThen_one_cons, rejects c blank]
        rcases squeeze_startsBlank rest blank with empty | ⟨d, left, gap, squeezed⟩
        next => rw [empty, missing blank]; rfl
        next => rw [squeezed, missing gap, missing blank]
      next =>
        rw [squeeze_filled _ (by simpa using blank), andThen_one_cons, andThen_one_cons, blind]
  drops c rest blank _ := by simp [andThen_one_cons, rejects c blank]

theorem ReadsThrough.alt (left : ReadsThrough (p.andThen next))
    (right : ReadsThrough (q.andThen next)) : ReadsThrough ((alt p q).andThen next) where
  blind text := by rw [andThen_alt, andThen_alt, left.blind, right.blind]
  drops c rest blank missing := by
    rw [andThen_alt, Option.or_eq_none_iff] at missing ⊢
    exact ⟨left.drops c rest blank missing.1, right.drops c rest blank missing.2⟩

theorem ReadsThrough.optional (through : ReadsThrough next)
    (taken : ReadsThrough (p.andThen next)) : ReadsThrough ((optional p).andThen next) := by
  apply taken.alt
  rwa [andThen_nothing]

def isGapless (word : Text) : Bool := !word.isEmpty && word.all (!isBlank ·)

theorem andThen_literal_nil {word : Text} (gapless : isGapless word = true) :
    (literal word).andThen next [] = none := by
  cases word with
  | nil => simp [isGapless] at gapless
  | cons c rest => rfl

theorem BlindToGaps.literal (blind : BlindToGaps next) {word : Text}
    (gapless : isGapless word = true) : ReadsThrough ((literal word).andThen next) := by
  induction word with
  | nil => simp [isGapless] at gapless
  | cons c rest ih =>
    simp only [isGapless, List.all_cons, Bool.and_eq_true, Bool.not_eq_true'] at gapless
    have whole : (Pattern.literal (c :: rest)).andThen next =
        (Pattern.one (· == c)).andThen ((Pattern.literal rest).andThen next) := andThen_seq
    rw [whole]
    refine BlindToGaps.one ?_ (rejectsBlanks_beq gapless.2.1)
    cases rest with
    | nil =>
      have last : (Pattern.literal []).andThen next = next := andThen_nothing
      rwa [last]
    | cons d rest => exact (ih (by simpa [isGapless] using gapless.2.2)).blind

theorem readFirst_squeeze (blind : BlindToGaps next) (text : Text) :
    readFirst next (squeeze text) = readFirst next text := by
  induction text with
  | nil => rfl
  | cons c rest ih =>
    rw [readFirst, ← ih, ← blind (c :: rest)]
    by_cases blank : isBlank c = true
    next =>
      rw [squeeze_blank _ blank]
      rcases withGap_cases (squeeze rest) with same | gap
      next =>
        rw [same]
        cases squeeze rest <;> simp [readFirst, ← Option.or_assoc]
      next => rw [gap, readFirst]
    next => rw [squeeze_filled _ (by simpa using blank), readFirst]

def matched (_ : Text) : Option Unit := some ()

theorem startsText_eq_isSome (p : Pattern) (text : Text) :
    p.startsText text = (p.andThen matched text).isSome := by
  unfold startsText andThen
  cases p.rests text <;> rfl

theorem occursIn_eq_isSome (p : Pattern) (text : Text) :
    p.occursIn text = (readFirst (p.andThen matched) text).isSome := by
  induction text with
  | nil => exact startsText_eq_isSome p []
  | cons c rest ih => rw [occursIn, readFirst, Option.isSome_or, ih, startsText_eq_isSome]

theorem occursIn_squeeze (blind : BlindToGaps (p.andThen matched)) (text : Text) :
    p.occursIn (squeeze text) = p.occursIn text := by
  rw [occursIn_eq_isSome, occursIn_eq_isSome, readFirst_squeeze blind]

end Pattern

end SnippetGauge
