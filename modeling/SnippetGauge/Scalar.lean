import SnippetGauge.Json.Real
import SnippetGauge.Text.Integer
import SnippetGauge.Text.LetterCase
import SnippetGauge.Violation

set_option autoImplicit false

namespace SnippetGauge.Scalar

open Text Checked

def trueNames : List String := ["1", "on", "t", "true", "y", "yes"]

def falseNames : List String := ["0", "off", "f", "false", "n", "no"]

def boolOfText? (text : String) : Option Bool :=
  let small := text.map Char.toLower
  if trueNames.contains small then some true
  else if falseNames.contains small then some false
  else none

def parseBool (text : String) : Checked Bool :=
  match boolOfText? text with
  | some value => .ok value
  | none => fail .boolParsing

def parseInt (text : String) : Checked Int :=
  match looseInteger text.toList with
  | .ok n => .ok n
  | .error .malformed => fail .intParsing
  | .error .tooLong => fail .intParsingSize

/-- Numbers from this one on, and below its negative, do not fit 64 bits. -/
def wordBound : Int := 0x8000000000000000

def readBool : Json → Checked Bool
  | .bool value => .ok value
  | .int 0 => .ok false
  | .int 1 => .ok true
  | .int n => if -wordBound ≤ n && n < wordBound then fail .boolParsing else fail .boolType
  | .real written =>
    match (Real.ofWritten written).integer? with
    | some 0 => .ok false
    | some 1 => .ok true
    | _ => fail .boolType
  | .str text => parseBool text
  | .brokenStr _ => fail .stringUnicode
  | _ => fail .boolType

def ofReal (value : Real) : Checked Int :=
  match value with
  | .notANumber | .infinite => fail .finiteNumber
  | .finite .. =>
    match value.integer? with
    | some n => if -wordBound < n && n < wordBound then .ok n else fail .intParsingSize
    | none => fail .intFromFloat

def readInt : Json → Checked Int
  | .int n => .ok n
  | .bool value => .ok (if value then 1 else 0)
  | .real written => ofReal (Real.ofWritten written)
  | .str text => parseInt text
  | .brokenStr _ => fail .stringUnicode
  | _ => fail .intType

def readPositive (value : Json) : Checked Nat :=
  match readInt value with
  | .error found => .error found
  | .ok n => if n < 1 then fail .greaterThanEqual else .ok n.toNat

def readString : Json → Checked String
  | .str text => .ok text
  | .brokenStr marks => .ok (String.ofList (marks.map Mark.shown))
  | _ => fail .stringType

def readName {α : Type} (ofName? : String → Option α) (value : Json) : Checked α :=
  match value with
  | .str name =>
    match ofName? name with
    | some found => .ok found
    | none => fail .enum
  | _ => fail .enum

def readList {α : Type} (check : Json → Checked α) : Json → Checked (List α)
  | .arr items => each check 0 items
  | _ => fail .listType

end SnippetGauge.Scalar
