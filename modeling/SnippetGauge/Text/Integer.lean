import SnippetGauge.Text.Line
import SnippetGauge.Text.Search
import SnippetGauge.Text.Word

set_option autoImplicit false

namespace SnippetGauge.Text

/-- White space that may surround a number; the information separators may not. -/
def isPadding (c : Char) : Bool := isBlank c && !(28 ≤ c.toNat && c.toNat ≤ 31)

def trimPadding (text : Text) : Text :=
  ((text.dropWhile isPadding).reverse.dropWhile isPadding).reverse

def maxDigits : Nat := 4300

def joinedDigits? (value? : Char → Option Nat) : Text → Option (List Nat)
  | [] => none
  | [c] => (value? c).map fun d => [d]
  -- An underscore is neither first nor last, and no other follows it.
  | c :: '_' :: rest => do
    let d ← value? c
    let later ← joinedDigits? value? rest
    return d :: later
  | c :: rest => do
    let d ← value? c
    let later ← joinedDigits? value? rest
    return d :: later

def splitSign : Text → Bool × Text
  | '+' :: rest => (false, rest)
  | '-' :: rest => (true, rest)
  | text => (false, text)

def signed (negative : Bool) (n : Nat) : Int := if negative then -n else n

def integer? (text : Text) : Option Int := do
  let (negative, body) := splitSign (trimPadding text)
  let digits ← joinedDigits? digitValue? body
  if digits.length > maxDigits then none
  else return signed negative (ofDigits digits)

inductive IntegerError where
  | malformed
  | tooLong
  deriving DecidableEq, Repr

def plainInteger (text : Text) : Except IntegerError Int :=
  let (negative, body) : Bool × Text :=
    match text with
    | '-' :: rest => (true, rest)
    | _ => (false, text)
  let digits := body.takeWhile isDigit
  if digits.head? == some '0' then if body == ['0'] then .ok 0 else .error .malformed
  -- The length is judged before what follows the digits.
  else if maxDigits < text.length - (body.length - digits.length) then .error .tooLong
  else if digits.isEmpty || digits.length < body.length then .error .malformed
  else .ok (signed negative (ofDigits (digits.map fun c => c.toNat - '0'.toNat)))

/-- The number after zeros and underscores, of which `last` is the one read last. A number that
is nothing else keeps its last character, and a fraction the one before its point. -/
def afterZeros? (last : Char) : Text → Option Text
  | [] => some [last]
  | c :: rest =>
    if c == '0' || c == '_' then afterZeros? c rest
    else if isDigit c || c == '-' then some (c :: rest)
    else if c == '.' then some (last :: c :: rest)
    else none

def dropZeros? : Text → Option Text
  | [] => none
  | c :: rest =>
    if c == '0' then afterZeros? c rest
    else if isDigit c then some (c :: rest)
    else none

def dropZeroPlaces (text : Text) : Text :=
  match splitAtFirst '.' text with
  | (whole, some places) => if !places.isEmpty && places.all (· == '0') then whole else text
  | (_, none) => text

def dropUnderscores (text : Text) : Text :=
  if text.head? == some '_' || text.getLast? == some '_' || occursIn ['_', '_'] text then text
  else text.filter (· != '_')

def cleanInteger? (text : Text) : Option Text :=
  let number :=
    match trimPadding text with
    | '+' :: '-' :: _ => none
    | '+' :: rest => dropZeros? rest
    | '-' :: rest => (dropZeros? rest).map ('-' :: ·)
    | rest => dropZeros? rest
  number.map fun number => dropUnderscores (dropZeroPlaces number)

def looseInteger (text : Text) : Except IntegerError Int :=
  match plainInteger text with
  | .error .malformed =>
    match cleanInteger? text with
    | some number => plainInteger number
    | none => .error .malformed
  | found => found

end SnippetGauge.Text
