import SnippetGauge.Json.Value
import SnippetGauge.Text.Line
import SnippetGauge.Text.Mark
import SnippetGauge.Text.Word

set_option autoImplicit false

namespace SnippetGauge.Json

open Text Mark

inductive Failure where
  | invalid (left : List Mark)
  | tooDeep
  | longInteger

def isSpace (mark : Mark) : Bool :=
  mark == .char ' ' || mark == .char '\t' || mark == .char '\n' || mark == .char '\r'

def skipSpace (text : List Mark) : List Mark := text.dropWhile isSpace

def hexValue? : Mark → Option Nat
  | .half _ _ => none
  | .char c =>
    if isDigit c then some (c.toNat - '0'.toNat)
    else if 'a' ≤ c && c ≤ 'f' then some (c.toNat - 'a'.toNat + 10)
    else if 'A' ≤ c && c ≤ 'F' then some (c.toNat - 'A'.toNat + 10)
    else none

def unitValue? (a b c d : Mark) : Option Nat := do
  let a ← hexValue? a
  let b ← hexValue? b
  let c ← hexValue? c
  let d ← hexValue? d
  return ((a * 16 + b) * 16 + c) * 16 + d

def simpleEscape? : Mark → Option Char
  | .char '"' => some '"'
  | .char '\\' => some '\\'
  | .char '/' => some '/'
  | .char 'b' => some (Char.ofNat 8)
  | .char 'f' => some (Char.ofNat 12)
  | .char 'n' => some '\n'
  | .char 'r' => some '\r'
  | .char 't' => some '\t'
  | _ => none

def isControl : Mark → Bool
  | .char c => c.toNat < 0x20
  | .half _ _ => false

/-- `start` is the text from the opening quote on, where an unterminated string is reported. -/
def readPieces (start : List Mark) : List Mark → Except Failure (List Piece × List Mark)
  | [] => .error (.invalid start)
  | .char '"' :: rest => .ok ([], rest)
  -- One more mark, the closing quote at least, has to follow the four digits.
  | .char '\\' :: .char 'u' :: a :: b :: c :: d :: e :: rest =>
    match unitValue? a b c d with
    | some n => do
      let (pieces, after) ← readPieces start (e :: rest)
      return (.unit n :: pieces, after)
    | none => .error (.invalid (.char 'u' :: a :: b :: c :: d :: e :: rest))
  | .char '\\' :: .char 'u' :: rest => .error (.invalid (.char 'u' :: rest))
  -- A text that ends within an escape is an unterminated string.
  | [.char '\\'] => .error (.invalid start)
  | .char '\\' :: mark :: rest =>
    match simpleEscape? mark with
    | some c => do
      let (pieces, after) ← readPieces start rest
      return (.mark (.char c) :: pieces, after)
    | none => .error (.invalid (.char '\\' :: mark :: rest))
  | mark :: rest =>
    if isControl mark then .error (.invalid (mark :: rest))
    else do
      let (pieces, after) ← readPieces start rest
      return (.mark mark :: pieces, after)

def readMarks (rest : List Mark) : Except Failure (List Mark × List Mark) := do
  let (pieces, after) ← readPieces (.char '"' :: rest) rest
  return (joinPieces pieces, after)

def isDigitMark : Mark → Bool
  | .char c => isDigit c
  | .half _ _ => false

def spanDigits (text : List Mark) : Text × List Mark :=
  ((text.takeWhile isDigitMark).filterMap Mark.char?, text.dropWhile isDigitMark)

def readWhole? : List Mark → Option (Text × List Mark)
  | .char '0' :: rest => some (['0'], rest)
  | text =>
    match spanDigits text with
    | ([], _) => none
    | (digits, rest) => some (digits, rest)

def readPlaces : List Mark → Text × List Mark
  | .char '.' :: rest =>
    match spanDigits rest with
    | ([], _) => ([], .char '.' :: rest)
    | (digits, after) => ('.' :: digits, after)
  | text => ([], text)

def readExponent (text : List Mark) : Text × List Mark :=
  match text with
  | .char e :: rest =>
    if e == 'e' || e == 'E' then
      let (sign, digits) : Text × List Mark :=
        match rest with
        | .char '+' :: more => (['+'], more)
        | .char '-' :: more => (['-'], more)
        | more => ([], more)
      match spanDigits digits with
      | ([], _) => ([], text)
      | (found, after) => (e :: sign ++ found, after)
    else ([], text)
  | _ => ([], text)

def maxIntegerDigits : Nat := 4300

def readNumber (start : List Mark) : Except Failure (Json × List Mark) :=
  let (sign, text) : Text × List Mark :=
    match start with
    | .char '-' :: rest => (['-'], rest)
    | _ => ([], start)
  match readWhole? text with
  | none => .error (.invalid start)
  | some (whole, afterWhole) =>
    let (places, afterPlaces) := readPlaces afterWhole
    let (exponent, after) := readExponent afterPlaces
    if places.isEmpty && exponent.isEmpty then
      -- Only integers are bounded; a number with places is kept as it is written.
      if whole.length > maxIntegerDigits then .error .longInteger
      else
        let n := ofDigits (whole.map fun c => c.toNat - '0'.toNat)
        .ok (int (if sign.isEmpty then n else -n), after)
    else .ok (real (String.ofList (sign ++ whole ++ places ++ exponent)), after)

def dropWord? : Text → List Mark → Option (List Mark)
  | [], text => some text
  | _ :: _, [] => none
  | c :: more, mark :: rest => if mark == .char c then dropWord? more rest else none

def constants : List (String × Json) := [("null", null), ("true", bool true),
  ("false", bool false), ("NaN", real "NaN"), ("Infinity", real "Infinity"),
  ("-Infinity", real "-Infinity")]

def readScalar (text : List Mark) : Except Failure (Json × List Mark) :=
  match constants.findSome? fun (name, value) => (dropWord? name.toList text).map (value, ·) with
  | some found => .ok found
  | none => readNumber text

def keyOf (marks : List Mark) : String :=
  String.ofList (marks.map Mark.shown)

mutual

/-- `depth` is how many containers may still be entered. -/
def readValue : (fuel depth : Nat) → List Mark → Except Failure (Json × List Mark)
  | 0, _, _ => .error .tooDeep
  | _ + 1, _, .char '"' :: rest => do
    let (marks, after) ← readMarks rest
    return (ofMarks marks, after)
  | fuel + 1, depth, .char '[' :: rest =>
    match depth, skipSpace rest with
    | 0, _ => .error .tooDeep
    | _, .char ']' :: after => .ok (arr [], after)
    | depth + 1, inner => do
      let (items, after) ← readItems fuel depth inner
      return (arr items, after)
  | fuel + 1, depth, .char '\x7b' :: rest =>
    match depth, skipSpace rest with
    | 0, _ => .error .tooDeep
    | _, .char '\x7d' :: after => .ok (obj [], after)
    | depth + 1, inner => do
      let (members, after) ← readMembers fuel depth inner
      return (obj members, after)
  | _ + 1, _, text => readScalar text

def readItems : (fuel depth : Nat) → List Mark → Except Failure (List Json × List Mark)
  | 0, _, _ => .error .tooDeep
  | fuel + 1, depth, text => do
    let (item, after) ← readValue fuel depth text
    match skipSpace after with
    | .char ']' :: rest => return ([item], rest)
    | .char ',' :: rest =>
      let (later, rest) ← readItems fuel depth (skipSpace rest)
      return (item :: later, rest)
    | rest => .error (.invalid rest)

def readMembers : (fuel depth : Nat) → List Mark →
    Except Failure (List (String × Json) × List Mark)
  | 0, _, _ => .error .tooDeep
  | fuel + 1, depth, .char '"' :: text => do
    let (key, after) ← readMarks text
    match skipSpace after with
    | .char ':' :: rest =>
      let (value, after) ← readValue fuel depth (skipSpace rest)
      match skipSpace after with
      | .char '\x7d' :: rest => return ([(keyOf key, value)], rest)
      | .char ',' :: rest =>
        let (later, rest) ← readMembers fuel depth (skipSpace rest)
        return ((keyOf key, value) :: later, rest)
      | rest => .error (.invalid rest)
    | rest => .error (.invalid rest)
  | _ + 1, _, text => .error (.invalid text)

end

inductive ParseError where
  | invalid (offset : Nat)
  | tooDeep
  | longInteger
  deriving DecidableEq, Repr

def Failure.toError (text : List Mark) : Failure → ParseError
  | .invalid left => .invalid (text.length - left.length)
  | .tooDeep => .tooDeep
  | .longInteger => .longInteger

def readAll (depth : Nat) (text : List Mark) : Except Failure Json := do
  let (value, after) ← readValue (2 * text.length + 2) depth (skipSpace text)
  match skipSpace after with
  | [] => return value
  | rest => .error (.invalid rest)

def maxDepth : Nat := 960

def parseMarks (text : List Mark) : Except ParseError Json :=
  (readAll maxDepth text).mapError (·.toError text)

def parse (text : Text) : Except ParseError Json := parseMarks (text.map .char)

end SnippetGauge.Json
