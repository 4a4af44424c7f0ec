import SnippetGauge.Encoding
import SnippetGauge.Proofs.WrittenScalars

set_option autoImplicit false

namespace SnippetGauge.Encoding

open Text Mark

def utf8 (text : Text) : Bytes := (String.ofList text).toUTF8.data.toList

theorem utf8_eq_flatMap (text : Text) : utf8 text = text.flatMap String.utf8EncodeChar := by
  simp [utf8, List.utf8Encode]

section

variable {value least low high : Nat} {byte : UInt8} {rest : Bytes}

theorem utf8From_next (need : Nat) (same : byte.toNat = low + 128) (six : low < 64) :
    utf8From (need + 2) value least (byte :: rest) =
      utf8From (need + 1) (value * 64 + low) least rest := by
  have inside : 128 ≤ low + 128 ∧ low + 128 < 192 := by omega
  simp [utf8From, same, inside]

theorem utf8From_last {c : Char} (same : byte.toNat = low + 128) (six : low < 64)
    (whole : value * 64 + low = c.toNat) (shortest : least ≤ c.toNat) :
    utf8From 1 value least (byte :: rest) = (utf8From 0 0 0 rest).map (.char c :: ·) := by
  have valid := Json.isScalar_toNat c
  have inside : 128 ≤ low + 128 ∧ low + 128 < 192 := by omega
  have small : c.toNat < 0x110000 := by omega
  simp [utf8From, same, inside, whole, shortest, small, Json.ofNat_toNat]

theorem utf8From_lead2 (same : byte.toNat = high + 192) (longer : 2 ≤ high) (five : high < 32) :
    utf8From 0 0 0 (byte :: rest) = utf8From 1 high 0x80 rest := by
  have inside : ¬ high + 192 < 128 ∧ 194 ≤ high + 192 ∧ high + 192 < 224 := by omega
  simp [utf8From, same, inside]

theorem utf8From_lead3 (same : byte.toNat = high + 224) (four : high < 16) :
    utf8From 0 0 0 (byte :: rest) = utf8From 2 high 0x800 rest := by
  have inside : ¬ high + 224 < 128 ∧ ¬ high + 224 < 224 ∧ high + 224 < 240 := by omega
  simp [utf8From, same, inside]

theorem utf8From_lead4 (same : byte.toNat = high + 240) (three : high < 5) :
    utf8From 0 0 0 (byte :: rest) = utf8From 3 high 0x10000 rest := by
  have inside : ¬ high + 240 < 128 ∧ ¬ high + 240 < 224 ∧ ¬ high + 240 < 240 ∧
      high + 240 < 245 := by omega
  simp [utf8From, same, inside]

theorem utf8From_encodeChar (c : Char) :
    utf8From 0 0 0 (String.utf8EncodeChar c ++ rest) = (utf8From 0 0 0 rest).map (.char c :: ·) := by
  have valid := Json.isScalar_toNat c
  have byte {n : Nat} (small : n < 256) : (UInt8.ofNat n).toNat = n := by simpa using small
  have value : c.val.toNat = c.toNat := rfl
  simp only [String.utf8EncodeChar, value]
  -- By the number of bytes; that none is spared is what the next shorter form could not hold.
  split_ifs with one two three
  · have small : c.toNat < 128 := by omega
    simp [utf8From, byte (n := c.toNat) (by omega), small, Char.ofNat_toNat]
  · simp only [List.cons_append, List.nil_append]
    rw [utf8From_lead2 (byte (by omega)) (by omega) (by omega),
      utf8From_last (c := c) (byte (by omega)) (by omega) (by omega) (by omega)]
  · simp only [List.cons_append, List.nil_append]
    rw [utf8From_lead3 (byte (by omega)) (by omega), utf8From_next 0 (byte (by omega)) (by omega),
      utf8From_last (c := c) (byte (by omega)) (by omega) (by omega) (by omega)]
  · simp only [List.cons_append, List.nil_append]
    rw [utf8From_lead4 (byte (by omega)) (by omega), utf8From_next 1 (byte (by omega)) (by omega),
      utf8From_next 0 (byte (by omega)) (by omega),
      utf8From_last (c := c) (byte (by omega)) (by omega) (by omega) (by omega)]

theorem utf8Marks?_utf8 (text : Text) : utf8Marks? (utf8 text) = some (text.map .char) := by
  rw [utf8_eq_flatMap, utf8Marks?]
  induction text with
  | nil => rfl
  | cons c rest ih => rw [List.flatMap_cons, utf8From_encodeChar, ih]; rfl

theorem utf8Text?_utf8 (text : Text) : utf8Text? (utf8 text) = some text := by
  simp [utf8Text?, utf8Marks?_utf8, chars?_map_char]

end

theorem unmarkedMarks?_of_filled {x y : UInt8} (rest : Bytes) (first : x ≠ 0) (second : y ≠ 0) :
    unmarkedMarks? (x :: y :: rest) = utf8Marks? (x :: y :: rest) := by
  rcases rest with _ | ⟨c, _ | ⟨d, rest⟩⟩ <;> simp [unmarkedMarks?, first, second]

theorem detectedMarks?_of_ascii {x y : UInt8} (rest : Bytes) (first : x ≠ 0) (second : y ≠ 0)
    (ascii : x.toNat < 128) : detectedMarks? (x :: y :: rest) = utf8Marks? (x :: y :: rest) := by
  -- Every byte order mark starts with a zero or with a byte beyond ASCII.
  have unmarked {mark : UInt8} (high : 128 ≤ mark.toNat) : x ≠ mark := by
    rintro rfl
    omega
  unfold detectedMarks?
  split
  next same => exact absurd (List.cons.inj same).1 first
  next same => exact absurd (List.cons.inj same).1 (unmarked (by decide))
  next same => exact absurd (List.cons.inj same).1 (unmarked (by decide))
  next same => exact absurd (List.cons.inj same).1 (unmarked (by decide))
  next same => exact absurd (List.cons.inj same).1 (unmarked (by decide))
  next => exact unmarkedMarks?_of_filled rest first second

theorem utf8_cons_ascii {c : Char} (ascii : c.toNat < 128) (rest : Text) :
    utf8 (c :: rest) = UInt8.ofNat c.toNat :: utf8 rest := by
  have value : c.val.toNat = c.toNat := rfl
  have short : c.toNat ≤ 127 := by omega
  simp [utf8_eq_flatMap, String.utf8EncodeChar, value, short]

theorem detectedMarks?_utf8 {a b : Char} (rest : Text) (first : 0 < a.toNat ∧ a.toNat < 128)
    (second : 0 < b.toNat ∧ b.toNat < 128) :
    detectedMarks? (utf8 (a :: b :: rest)) = some ((a :: b :: rest).map .char) := by
  have byte {c : Char} (ascii : 0 < c.toNat ∧ c.toNat < 128) :
      (UInt8.ofNat c.toNat).toNat = c.toNat := by simp; omega
  have filled {c : Char} (ascii : 0 < c.toNat ∧ c.toNat < 128) : UInt8.ofNat c.toNat ≠ 0 := by
    intro zero
    have none := (congrArg UInt8.toNat zero).symm.trans (byte ascii)
    simp at none
    omega
  rw [← utf8Marks?_utf8, utf8_cons_ascii first.2, utf8_cons_ascii second.2]
  exact detectedMarks?_of_ascii _ (filled first) (filled second) (by rw [byte first]; exact first.2)

end SnippetGauge.Encoding
