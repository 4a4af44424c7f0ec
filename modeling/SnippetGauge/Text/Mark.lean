set_option autoImplicit false

namespace SnippetGauge

def isHalfUnit (n : Nat) : Bool := 0xD800 ≤ n && n < 0xE000

/-- A code point: a character, or half of a surrogate pair by its UTF-16 unit. -/
inductive Mark where
  | char (c : Char)
  | half (unit : Nat) (isHalf : isHalfUnit unit = true)
  deriving DecidableEq, Repr

namespace Mark

def ofNat (n : Nat) : Mark :=
  if isHalf : isHalfUnit n = true then half n isHalf else char (Char.ofNat n)

def char? : Mark → Option Char
  | char c => some c
  | half _ _ => none

def isChar (mark : Mark) : Bool := mark.char?.isSome

def shown (mark : Mark) : Char := mark.char?.getD (Char.ofNat 0xFFFD)

def chars? : List Mark → Option (List Char)
  | [] => some []
  | half _ _ :: _ => none
  | char c :: rest => (chars? rest).map (c :: ·)

theorem chars?_map_char (text : List Char) : chars? (text.map char) = some text := by
  induction text with
  | nil => rfl
  | cons c rest ih => simp [chars?, ih]

def leadingHalves : List Mark → List Nat
  | half unit _ :: rest => unit :: leadingHalves rest
  | _ => []

def firstHalves? : List Mark → Option (Nat × List Nat)
  | [] => none
  | char _ :: rest => (firstHalves? rest).map fun (start, units) => (start + 1, units)
  | half unit _ :: rest => some (0, unit :: leadingHalves rest)

-- Like the halves, the characters of the private use planes are neither words nor white space, and
-- have no case.
def standIn (plane : Nat) : Mark → Char
  | char c => c
  | half unit _ => Char.ofNat (plane + unit)

def near : Mark → Char := standIn 0xF0000

def far : Mark → Char := standIn 0x100000

/-- A character that a text holds itself stands in both of its copies, a half stands in neither. -/
def restore (inNear inFar : Char) : Mark :=
  if inNear = inFar then char inNear else ofNat (inNear.toNat - 0xF0000)

theorem toNat_standIn_half {plane unit : Nat} (isHalf : isHalfUnit unit = true)
    (above : 0xF0000 ≤ plane) (below : plane ≤ 0x100000) :
    (standIn plane (half unit isHalf)).toNat = plane + unit := by
  have inRange := isHalf
  simp only [isHalfUnit, Bool.and_eq_true, decide_eq_true_eq] at inRange
  rw [standIn, Char.ofNat, dif_pos (.inr ⟨by omega, by omega⟩)]
  rfl

theorem restore_near_far (mark : Mark) : restore mark.near mark.far = mark := by
  cases mark with
  | char c => simp [restore, near, far, standIn]
  | half unit isHalf =>
    have nearUnit := toNat_standIn_half isHalf (Nat.le_refl 0xF0000) (by decide)
    have farUnit := toNat_standIn_half isHalf (by decide) (Nat.le_refl 0x100000)
    have apart : near (half unit isHalf) ≠ far (half unit isHalf) := by
      intro same
      have units := congrArg Char.toNat same
      simp only [near, far, nearUnit, farUnit] at units
      omega
    rw [restore, if_neg apart, near, nearUnit, Nat.add_sub_cancel_left, ofNat, dif_pos isHalf]

inductive Piece where
  | mark (value : Mark)
  | unit (value : Nat)

def isHighUnit (n : Nat) : Bool := 0xD800 ≤ n && n < 0xDC00

def isLowUnit (n : Nat) : Bool := 0xDC00 ≤ n && n < 0xE000

def pairValue (high low : Nat) : Nat := 0x10000 + (high - 0xD800) * 0x400 + (low - 0xDC00)

/-- Neighbouring units form a pair; halves that are read as marks do not. -/
def joinPieces : List Piece → List Mark
  | [] => []
  | .mark m :: later => m :: joinPieces later
  | .unit high :: .unit low :: later =>
    if isHighUnit high && isLowUnit low then ofNat (pairValue high low) :: joinPieces later
    else ofNat high :: joinPieces (.unit low :: later)
  | .unit n :: later => ofNat n :: joinPieces later

end Mark

end SnippetGauge
