import SnippetGauge.Text.Line
import SnippetGauge.Text.Mark

set_option autoImplicit false

namespace SnippetGauge.Encoding

abbrev Bytes := List UInt8

/-- `need` bytes of a character are missing, which is at least `least`. -/
def utf8From : (need value least : Nat) → Bytes → Option (List Mark)
  | 0, _, _, [] => some []
  | _ + 1, _, _, [] => none
  | 0, _, _, byte :: rest =>
    let n := byte.toNat
    if n < 0x80 then (utf8From 0 0 0 rest).map (.char (Char.ofNat n) :: ·)
    else if 0xC2 ≤ n && n < 0xE0 then utf8From 1 (n - 0xC0) 0x80 rest
    else if 0xE0 ≤ n && n < 0xF0 then utf8From 2 (n - 0xE0) 0x800 rest
    else if 0xF0 ≤ n && n < 0xF5 then utf8From 3 (n - 0xF0) 0x10000 rest
    else none
  | need + 1, value, least, byte :: rest =>
    let n := byte.toNat
    if 0x80 ≤ n && n < 0xC0 then
      let value := value * 0x40 + (n - 0x80)
      if need == 0 then
        -- A value below `least` has a shorter form, which alone is valid.
        if least ≤ value && value < 0x110000 then
          (utf8From 0 0 0 rest).map (Mark.ofNat value :: ·)
        else none
      else utf8From need value least rest
    else none

def utf8Marks? (bytes : Bytes) : Option (List Mark) := utf8From 0 0 0 bytes

def utf8Text? (bytes : Bytes) : Option Text := (utf8Marks? bytes).bind Mark.chars?

inductive ByteOrder where
  | big
  | little
  deriving DecidableEq, Repr

def ofBytes (order : ByteOrder) (bytes : Bytes) : Nat :=
  let bytes := if order = .big then bytes else bytes.reverse
  bytes.foldl (fun n byte => n * 0x100 + byte.toNat) 0

def utf16Units? (order : ByteOrder) : Bytes → Option (List Nat)
  | [] => some []
  | [_] => none
  | a :: b :: rest => (utf16Units? order rest).map (ofBytes order [a, b] :: ·)

def utf16Marks? (order : ByteOrder) (bytes : Bytes) : Option (List Mark) :=
  (utf16Units? order bytes).map fun units => Mark.joinPieces (units.map .unit)

def utf32Marks? (order : ByteOrder) : Bytes → Option (List Mark)
  | [] => some []
  | a :: b :: c :: d :: rest =>
    let n := ofBytes order [a, b, c, d]
    if n < 0x110000 then (utf32Marks? order rest).map (Mark.ofNat n :: ·) else none
  | _ => none

def unmarkedMarks? (bytes : Bytes) : Option (List Mark) :=
  match bytes with
  | a :: b :: c :: d :: _ =>
    -- The first character of a JSON text is ASCII, so its other bytes are zero.
    if a == 0 then if b == 0 then utf32Marks? .big bytes else utf16Marks? .big bytes
    else if b == 0 then
      if c == 0 && d == 0 then utf32Marks? .little bytes else utf16Marks? .little bytes
    else utf8Marks? bytes
  | [a, b] =>
    if a == 0 then utf16Marks? .big bytes
    else if b == 0 then utf16Marks? .little bytes
    else utf8Marks? bytes
  | _ => utf8Marks? bytes

def detectedMarks? (bytes : Bytes) : Option (List Mark) :=
  match bytes with
  | 0 :: 0 :: 0xFE :: 0xFF :: rest => utf32Marks? .big rest
  | 0xFF :: 0xFE :: 0 :: 0 :: rest => utf32Marks? .little rest
  | 0xFE :: 0xFF :: rest => utf16Marks? .big rest
  | 0xFF :: 0xFE :: rest => utf16Marks? .little rest
  | 0xEF :: 0xBB :: 0xBF :: rest => utf8Marks? rest
  | _ => unmarkedMarks? bytes

end SnippetGauge.Encoding
