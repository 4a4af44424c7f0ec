import Mathlib.Data.List.Chain
import SnippetGauge.Json.Parse
import SnippetGauge.Json.Print
import SnippetGauge.Proofs.SizeRefusal

set_option autoImplicit false

namespace SnippetGauge.Json

open Text Mark

theorem hexDigits_last (width n : Nat) :
    hexDigits (width + 2) n = hexDigits (width + 1) (n / 16) ++ [(n % 16).digitChar] := by
  rcases Nat.lt_or_ge n 16 with small | large
  next =>
    have none : n / 16 = 0 := by omega
    simp [hexDigits, none, Nat.toDigits_of_lt_base small, Nat.mod_eq_of_lt small,
      List.replicate_succ']
  next =>
    simp [hexDigits, Nat.toDigits_of_base_le (by decide) large]

theorem exists_hexDigits {n : Nat} (small : n < 0x10000) :
    ∃ a b c d, hexDigits 4 n = [a, b, c, d] ∧
      unitValue? (.char a) (.char b) (.char c) (.char d) = some n := by
  have value : ∀ digit < 16, hexValue? (.char digit.digitChar) = some digit := by decide
  have top : n / 16 / 16 / 16 < 16 := by omega
  have first : hexDigits 1 (n / 16 / 16 / 16) = [(n / 16 / 16 / 16).digitChar] := by
    simp [hexDigits, Nat.toDigits_of_lt_base top]
  refine ⟨_, _, _, _, by rw [hexDigits_last, hexDigits_last, hexDigits_last, first]; rfl, ?_⟩
  simp only [unitValue?, value _ top, value (_ % 16) (Nat.mod_lt _ (by decide)), pure, bind,
    Option.bind, Option.some.injEq]
  omega

def isHalfOf (side : Nat → Bool) : Mark → Bool
  | .char _ => false
  | .half unit _ => side unit

/-- Where a high half stands directly before a low one, their escapes are read as a pair. -/
def Unpaired (marks : List Mark) : Prop :=
  marks.IsChain fun first next => isHalfOf isHighUnit first = true → isHalfOf isLowUnit next = false

theorem unpaired_map_char (text : Text) : Unpaired (text.map .char) :=
  (List.pairwise_map.mpr (List.pairwise_of_forall fun _ _ => by simp [isHalfOf])).isChain

def startsLow : List Piece → Bool
  | .unit n :: _ => isLowUnit n
  | _ => false

/-- In front of more of a string, `spelling` is read as `pieces`, which are joined to `mark`. -/
structure Spells (spelling : Text) (mark : Mark) (pieces : List Piece) : Prop where
  read (start rest : List Mark) (more : rest ≠ []) :
    readPieces start (spelling.map .char ++ rest) =
      (readPieces start rest).map fun (later, after) => (pieces ++ later, after)
  joined (later : List Piece) (apart : isHalfOf isHighUnit mark = true → startsLow later = false) :
    joinPieces (pieces ++ later) = mark :: joinPieces later
  starts (later : List Piece) : startsLow (pieces ++ later) = true → isHalfOf isLowUnit mark = true

variable {c : Char}

theorem spells_escape {e : Char} (named : simpleEscape? (.char e) = some c) :
    Spells ['\\', e] (.char c) [.mark (.char c)] where
  read start rest more := by
    have other : e ≠ 'u' := by rintro rfl; simp [simpleEscape?] at named
    simp only [List.map_cons, List.map_nil, List.cons_append, List.nil_append]
    rw [readPieces]
    · simp only [named]
      cases readPieces start rest <;> rfl
    all_goals simp [other]
  joined later _ := by simp [joinPieces]
  starts later := by simp [startsLow]

theorem spells_plain (quote : c ≠ '"') (slash : c ≠ '\\') (control : isControl (.char c) = false) :
    Spells [c] (.char c) [.mark (.char c)] where
  read start rest more := by
    simp only [List.map_cons, List.map_nil, List.cons_append, List.nil_append]
    rw [readPieces]
    · simp only [control]
      cases readPieces start rest <;> rfl
    all_goals simp [quote, slash]
  joined later _ := by simp [joinPieces]
  starts later := by simp [startsLow]

theorem readPieces_unitEscape {n : Nat} (small : n < 0x10000) (start : List Mark) {rest : List Mark}
    (more : rest ≠ []) :
    readPieces start ((unitEscape n).map .char ++ rest) =
      (readPieces start rest).map fun (later, after) => (.unit n :: later, after) := by
  obtain ⟨next, rest, rfl⟩ := List.exists_cons_of_ne_nil more
  obtain ⟨a, b, c, d, digits, value⟩ := exists_hexDigits small
  simp only [unitEscape, digits, List.map_cons, List.map_nil, List.cons_append, List.nil_append,
    readPieces, value]
  cases readPieces start (next :: rest) <;> rfl

theorem joinPieces_unit {n : Nat} {later : List Piece}
    (apart : isHighUnit n = true → startsLow later = false) :
    joinPieces (.unit n :: later) = Mark.ofNat n :: joinPieces later := by
  rcases later with _ | ⟨⟨mark⟩ | ⟨low⟩, later⟩
  · rfl
  · rfl
  · have alone : (isHighUnit n && isLowUnit low) = false := by
      simpa [startsLow] using apart
    simp [joinPieces, alone]

theorem spells_half {unit : Nat} (isHalf : isHalfUnit unit = true) :
    Spells (unitEscape unit) (.half unit isHalf) [.unit unit] where
  read start rest more := by
    have inRange := isHalf
    simp only [isHalfUnit, Bool.and_eq_true, decide_eq_true_eq] at inRange
    simpa using readPieces_unitEscape (by omega) start more
  joined later apart := by
    rw [List.singleton_append, joinPieces_unit apart, Mark.ofNat, dif_pos isHalf]
  starts later low := low

theorem isScalar_toNat (c : Char) :
    c.toNat < 0xD800 ∨ 0xDFFF < c.toNat ∧ c.toNat < 0x110000 := c.valid

theorem ofNat_toNat (c : Char) : Mark.ofNat c.toNat = .char c := by
  have valid := isScalar_toNat c
  have whole : isHalfUnit c.toNat = false := by
    simp only [isHalfUnit, Bool.and_eq_false_iff, decide_eq_false_iff_not]
    omega
  simp [Mark.ofNat, whole, Char.ofNat_toNat]

theorem spells_unit (small : c.toNat < 0x10000) :
    Spells (unitEscape c.toNat) (.char c) [.unit c.toNat] := by
  have valid := isScalar_toNat c
  have sides : isHighUnit c.toNat = false ∧ isLowUnit c.toNat = false := by
    simp only [isHighUnit, isLowUnit, Bool.and_eq_false_iff, decide_eq_false_iff_not]
    omega
  constructor
  next =>
    intro start rest more
    simpa using readPieces_unitEscape small start more
  next =>
    intro later _
    rw [List.singleton_append, joinPieces_unit (by simp [sides.1]), ofNat_toNat]
  next =>
    intro later
    simp [startsLow, sides.2]

theorem pairValue_units (n : Nat) :
    pairValue (0xD800 + n / 0x400) (0xDC00 + n % 0x400) = 0x10000 + n := by
  unfold pairValue
  simp only [Nat.add_sub_cancel_left, Nat.add_assoc, Nat.div_add_mod']

theorem spells_pair {n : Nat} (large : c.toNat = 0x10000 + n) :
    Spells (unitEscape (0xD800 + n / 0x400) ++ unitEscape (0xDC00 + n % 0x400)) (.char c)
      [.unit (0xD800 + n / 0x400), .unit (0xDC00 + n % 0x400)] := by
  have valid := isScalar_toNat c
  have high : 0xD800 + n / 0x400 < 0xDC00 := by omega
  have low : 0xDC00 + n % 0x400 < 0xE000 := by omega
  constructor
  next =>
    intro start rest more
    rw [List.map_append, List.append_assoc,
      readPieces_unitEscape (by omega) start (by simp [unitEscape]),
      readPieces_unitEscape (by omega) start more]
    cases readPieces start rest <;> rfl
  next =>
    intro later _
    have paired : (isHighUnit (0xD800 + n / 0x400) && isLowUnit (0xDC00 + n % 0x400)) = true := by
      simp only [isHighUnit, isLowUnit, Bool.and_eq_true, decide_eq_true_eq]
      omega
    simp only [List.cons_append, List.nil_append, joinPieces, paired, if_true, pairValue_units,
      ← large, ofNat_toNat]
  next =>
    intro later first
    simp only [List.cons_append, startsLow, isLowUnit, Bool.and_eq_true, decide_eq_true_eq] at first
    omega

theorem exists_spells_escapeChar (c : Char) : ∃ pieces, Spells (escapeChar c) (.char c) pieces := by
  have named {d e : Char} (same : (c == d) = true) (escape : simpleEscape? (.char e) = some d) :
      ∃ pieces, Spells ['\\', e] (.char c) pieces :=
    ⟨_, spells_escape (by rw [escape, beq_iff_eq.mp same])⟩
  unfold escapeChar
  split_ifs with quote slash feed carriage tab backspace page printable small
  · exact named quote rfl
  · exact named slash rfl
  · exact named feed rfl
  · exact named carriage rfl
  · exact named tab rfl
  · exact named backspace rfl
  · exact named page rfl
  · have shown : 32 ≤ c.toNat := by
      simp only [Bool.and_eq_true, decide_eq_true_eq] at printable
      exact printable.1
    have control : isControl (.char c) = false := by
      simp only [isControl, decide_eq_false_iff_not]
      omega
    exact ⟨_, spells_plain (by simpa using quote) (by simpa using slash) control⟩
  · exact ⟨_, spells_unit small⟩
  · exact ⟨_, spells_pair (by omega)⟩

theorem exists_spells_escapeMark : ∀ mark, ∃ pieces, Spells (escapeMark mark) mark pieces
  | .char c => exists_spells_escapeChar c
  | .half _ isHalf => ⟨_, spells_half isHalf⟩

theorem exists_readPieces_escaped {marks : List Mark} (unpaired : Unpaired marks) :
    ∃ pieces,
      (∀ start rest : List Mark, rest ≠ [] →
        readPieces start ((marks.flatMap escapeMark).map .char ++ rest) =
          (readPieces start rest).map fun (later, after) => (pieces ++ later, after)) ∧
      joinPieces pieces = marks ∧
      (startsLow pieces = true → ∃ mark ∈ marks.head?, isHalfOf isLowUnit mark = true) := by
  induction marks with
  | nil =>
    refine ⟨[], fun start rest _ => ?_, rfl, by simp [startsLow]⟩
    cases found : readPieces start rest <;> simp [Except.map, found]
  | cons mark rest ih =>
    obtain ⟨next, others⟩ := List.isChain_cons.mp unpaired
    obtain ⟨later, readLater, joinedLater, first⟩ := ih others
    obtain ⟨pieces, spells⟩ := exists_spells_escapeMark mark
    refine ⟨pieces ++ later, fun start tail more => ?_, ?_, fun low => ?_⟩
    · rw [List.flatMap_cons, List.map_append, List.append_assoc, spells.read start _ (by simp [more]),
        readLater start tail more]
      cases readPieces start tail <;> simp [Except.map]
    · rw [spells.joined, joinedLater]
      intro high
      by_contra low
      obtain ⟨follower, front, isLow⟩ := first (by simpa using low)
      simp [next follower front high] at isLow
    · exact ⟨mark, rfl, spells.starts later low⟩

theorem readMarks_escaped {marks : List Mark} (unpaired : Unpaired marks) (rest : List Mark) :
    readMarks ((marks.flatMap escapeMark).map .char ++ .char '"' :: rest) = .ok (marks, rest) := by
  obtain ⟨pieces, read, joined, -⟩ := exists_readPieces_escaped unpaired
  rw [readMarks, read _ _ (by simp)]
  simp [readPieces, Except.map, bind, Except.bind, pure, Except.pure, joined]

theorem readMarks_writeString (text : Text) (rest : List Mark) :
    readMarks ((text.flatMap escapeChar).map .char ++ .char '"' :: rest) =
      .ok (text.map .char, rest) := by
  have escaped : (text.map Mark.char).flatMap escapeMark = text.flatMap escapeChar :=
    List.flatMap_map ..
  rw [← escaped, readMarks_escaped (unpaired_map_char text)]

def EndsNumber (rest : List Mark) : Prop :=
  ∀ mark ∈ rest.head?, isDigitMark mark = false ∧ mark ∉ [.char '.', .char 'e', .char 'E']

variable {rest : List Mark}

theorem isDigit_of_mem_toDigits {n : Nat} {c : Char} (inside : c ∈ Nat.toDigits 10 n) :
    isDigit c = true := by
  have written : c ∈ (toString n).toList := by simpa [Nat.toList_repr] using inside
  exact Service.isDigit_of_mem_toString written

theorem exists_toDigits_cons (n : Nat) :
    ∃ d more, Nat.toDigits 10 n = d :: more ∧ isDigit d = true := by
  obtain ⟨d, more, digits⟩ : ∃ d more, Nat.toDigits 10 n = d :: more :=
    List.exists_cons_of_ne_nil Nat.toDigits_ne_nil
  exact ⟨d, more, digits, isDigit_of_mem_toDigits (n := n) (by simp [digits])⟩

theorem head?_toDigits {n : Nat} (positive : 0 < n) : (Nat.toDigits 10 n).head? ≠ some '0' := by
  induction n using Nat.strongRecOn with
  | ind n ih =>
    rcases Nat.lt_or_ge n 10 with small | large
    next =>
      have digit : ∀ k < 10, 0 < k → k.digitChar ≠ '0' := by decide
      simpa [Nat.toDigits_of_lt_base small] using digit n small positive
    next =>
      have front := ih (n / 10) (by omega) (by omega)
      obtain ⟨d, more, digits, -⟩ := exists_toDigits_cons (n / 10)
      rw [Nat.toDigits_of_base_le (by decide) large]
      simpa [digits] using front

theorem spanDigits_digits {digits : Text} (all : ∀ c ∈ digits, isDigit c = true)
    (ends : EndsNumber rest) : spanDigits (digits.map .char ++ rest) = (digits, rest) := by
  have here : ∀ mark ∈ digits.map Mark.char, isDigitMark mark = true := by
    simpa [isDigitMark] using all
  have stops : rest.takeWhile isDigitMark = [] ∧ rest.dropWhile isDigitMark = rest := by
    cases rest with
    | nil => exact ⟨rfl, rfl⟩
    | cons mark more => simp [(ends mark (by simp)).1]
  have chars : (digits.map Mark.char).filterMap Mark.char? = digits := by
    simp [List.filterMap_map, Function.comp_def, Mark.char?]
  simp [spanDigits, List.takeWhile_append_of_pos here, List.dropWhile_append_of_pos here, stops,
    chars]

theorem readWhole?_toDigits (n : Nat) (ends : EndsNumber rest) :
    readWhole? ((Nat.toDigits 10 n).map .char ++ rest) = some (Nat.toDigits 10 n, rest) := by
  rcases Nat.eq_zero_or_pos n with rfl | positive
  next => rfl
  next =>
    have span := spanDigits_digits (fun c inside => isDigit_of_mem_toDigits (n := n) inside) ends
    have first := head?_toDigits positive
    obtain ⟨d, more, digits, -⟩ := exists_toDigits_cons n
    rw [digits] at span first ⊢
    rw [readWhole?]
    · simp only [span]
    · intro other same
      simp_all

theorem readPlaces_of_ends (ends : EndsNumber rest) : readPlaces rest = ([], rest) := by
  unfold readPlaces
  split
  next => exact absurd (ends (.char '.') (by simp)).2 (by simp)
  next => rfl

theorem readExponent_of_ends (ends : EndsNumber rest) : readExponent rest = ([], rest) := by
  unfold readExponent
  split
  next e more =>
    have other := (ends (.char e) (by simp)).2
    simp only [List.mem_cons, Mark.char.injEq, List.not_mem_nil, or_false, not_or] at other
    simp [other]
  next => rfl

theorem writeInt_eq (n : Int) :
    writeInt n = (if n < 0 then ['-'] else []) ++ Nat.toDigits 10 n.natAbs := by
  cases n with
  | ofNat n => simp [writeInt, Int.toString_eq_repr, Int.repr, Nat.toList_repr]
  | negSucc n =>
    simp [writeInt, Int.toString_eq_repr, Int.repr, Nat.toList_repr, Int.negSucc_lt_zero]

theorem readNumber_toDigits {n : Nat} (short : (Nat.toDigits 10 n).length ≤ maxIntegerDigits)
    (ends : EndsNumber rest) :
    readNumber ((Nat.toDigits 10 n).map .char ++ rest) = .ok (int n, rest) ∧
      readNumber (.char '-' :: ((Nat.toDigits 10 n).map .char ++ rest)) = .ok (int (-n), rest) := by
  have value : ofDigits ((Nat.toDigits 10 n).map fun c => c.toNat - 48) = n := by
    simpa [Nat.toList_repr] using Service.ofDigits_toString n
  have whole := readWhole?_toDigits n ends
  have fits : ¬ maxIntegerDigits < (Nat.toDigits 10 n).length := by omega
  have places := readPlaces_of_ends ends
  have exponent := readExponent_of_ends ends
  constructor
  next =>
    have unsigned (more : List Mark) :
        (Nat.toDigits 10 n).map .char ++ rest ≠ .char '-' :: more := by
      intro same
      obtain ⟨d, later, digits, digit⟩ := exists_toDigits_cons n
      have sign : d = '-' := by
        rw [digits] at same
        simp_all
      simp [sign, isDigit] at digit
    rw [readNumber]
    next => simp [whole, places, exponent, fits, value]
    next => exact unsigned
  next =>
    rw [readNumber]
    simp [whole, places, exponent, fits, value]

theorem readNumber_writeInt {n : Int} (short : (Nat.toDigits 10 n.natAbs).length ≤ maxIntegerDigits)
    (ends : EndsNumber rest) :
    readNumber ((writeInt n).map .char ++ rest) = .ok (int n, rest) := by
  obtain ⟨plus, minus⟩ := readNumber_toDigits short ends
  rw [writeInt_eq]
  by_cases negative : n < 0
  next =>
    have same : -(n.natAbs : Int) = n := by omega
    rw [same] at minus
    simpa [negative] using minus
  next =>
    have same : (n.natAbs : Int) = n := by omega
    rw [same] at plus
    simpa [negative] using plus

theorem exists_writeInt_cons (n : Int) : ∃ c more, writeInt n = c :: more ∧
    (isDigit c = true ∨ c = '-' ∧ ∃ d later, more = d :: later ∧ isDigit d = true) := by
  obtain ⟨d, later, digits, digit⟩ := exists_toDigits_cons n.natAbs
  rw [writeInt_eq, digits]
  by_cases negative : n < 0
  · exact ⟨'-', d :: later, by simp [negative], .inr ⟨rfl, d, later, rfl, digit⟩⟩
  · exact ⟨d, later, by simp [negative], .inl digit⟩

theorem findSome?_constants_writeInt (n : Int) (rest : List Mark) :
    (constants.findSome? fun (name, value) =>
      (dropWord? name.toList ((writeInt n).map .char ++ rest)).map (value, ·)) = none := by
  have marks : ∀ c ∈ ['n', 't', 'f', 'N', 'I', '-'], isDigit c = false := by simp [isDigit]
  have other {d : Char} (digit : isDigit d = true) :
      ∀ c ∈ ['n', 't', 'f', 'N', 'I', '-'], d ≠ c := by
    rintro c inside rfl
    simp [marks d inside] at digit
  obtain ⟨c, more, written, digit | ⟨rfl, d, later, rfl, digit⟩⟩ := exists_writeInt_cons n
  · have apart := other digit
    simp only [List.forall_mem_cons] at apart
    simp [written, constants, dropWord?, apart]
  · have apart := other digit
    simp only [List.forall_mem_cons] at apart
    simp [written, constants, dropWord?, apart]

theorem readScalar_writeInt {n : Int} (short : (Nat.toDigits 10 n.natAbs).length ≤ maxIntegerDigits)
    {rest : List Mark} (ends : EndsNumber rest) :
    readScalar ((writeInt n).map .char ++ rest) = .ok (int n, rest) := by
  unfold readScalar
  rw [findSome?_constants_writeInt]
  exact readNumber_writeInt short ends

end SnippetGauge.Json
