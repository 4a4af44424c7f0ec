import SnippetGauge.Text.Integer
import SnippetGauge.Text.Line
import SnippetGauge.Text.Search
import SnippetGauge.Text.Word

set_option autoImplicit false

namespace SnippetGauge

open Text

/-- A number of double precision: `mantissa * 2 ^ exponent`, infinite, or none at all. -/
inductive Real where
  | notANumber
  | infinite
  | finite (negative : Bool) (mantissa : Nat) (exponent : Int)
  deriving DecidableEq, Repr

structure Decimal where
  negative : Bool
  digits : Nat
  exponent : Int

def roundDiv (num den : Nat) : Nat :=
  let whole := num / den
  let rest := num % den
  if 2 * rest > den || (2 * rest == den && whole % 2 == 1) then whole + 1 else whole

namespace Decimal

def ofAscii (digits : Text) : Nat := Text.ofDigits (digits.map fun c => c.toNat - '0'.toNat)

def magnitude (value : Decimal) : Int := (Nat.toDigits 10 value.digits).length + value.exponent

def fraction (value : Decimal) : Nat × Nat :=
  if value.exponent < 0 then (value.digits, Nat.pow 10 value.exponent.natAbs)
  else (value.digits * Nat.pow 10 value.exponent.toNat, 1)

def scaled (num den : Nat) (exponent : Int) : Nat × Nat :=
  if exponent < 0 then (num * Nat.pow 2 exponent.natAbs, den)
  else (num, den * Nat.pow 2 exponent.toNat)

/-- The exponent at which the quotient has 53 binary digits, but never below that of the
smallest double. -/
def binaryExponent (num den : Nat) : Int :=
  -- The quotient has 52 or 53 binary digits before the point at this exponent.
  let guess : Int := (num.log2 : Int) - (den.log2 : Int) - 52
  let (num, den) := scaled num den guess
  let exponent := if num / den < Nat.pow 2 52 then guess - 1 else guess
  max exponent (-1074)

def round (value : Decimal) : Real :=
  if value.digits == 0 || value.magnitude < -400 then .finite value.negative 0 0
  else if value.magnitude > 400 then .infinite
  else
    let (num, den) := value.fraction
    let exponent := binaryExponent num den
    let (num, den) := scaled num den exponent
    let mantissa := roundDiv num den
    if mantissa * Nat.pow 2 exponent.toNat ≥ Nat.pow 2 1024 then .infinite
    else .finite value.negative mantissa exponent

def ofWritten (text : Text) : Decimal :=
  let (negative, body) := splitSign text
  let whole := body.takeWhile isDigit
  let (places, rest) : Text × Text :=
    match body.drop whole.length with
    | '.' :: more => (more.takeWhile isDigit, more.dropWhile isDigit)
    | more => ([], more)
  let (down, power) := splitSign (rest.drop 1)
  { negative := negative
    digits := ofAscii (whole ++ places)
    exponent := signed down (ofAscii power) - places.length }

end Decimal

namespace Real

def ofWritten (written : String) : Real :=
  if written == "NaN" then .notANumber
  else if written == "Infinity" || written == "-Infinity" then .infinite
  else (Decimal.ofWritten written.toList).round

def integer? : Real → Option Int
  | finite negative mantissa exponent =>
    if exponent < 0 then
      if mantissa % Nat.pow 2 exponent.natAbs == 0 then
        some (signed negative (mantissa / Nat.pow 2 exponent.natAbs))
      else none
    else some (signed negative (mantissa * Nat.pow 2 exponent.toNat))
  | _ => none

end Real

end SnippetGauge
