import SnippetGauge.Service.Message
import SnippetGauge.Text.Integer

set_option autoImplicit false

namespace SnippetGauge.Service

open Text Encoding

structure ByteRange where
  start : Int
  stop : Int
  deriving DecidableEq, Repr

namespace ByteRange

inductive Refusal where
  | malformed
  | otherUnit
  | noRange
  | backwards
  | unsatisfiable
  deriving DecidableEq, Repr

def ofBounds? (size : Nat) (first last : Text) : Option ByteRange :=
  match first, last with
  -- A suffix that is longer than the file is all of it.
  | [], last => (integer? last).map fun suffix => ⟨max 0 (size - suffix), size⟩
  | first, [] => (integer? first).map fun start => ⟨start, size⟩
  | first, last => do
    let start ← integer? first
    let final ← integer? last
    return ⟨start, if final < size then final + 1 else size⟩

def ofPart? (size : Nat) (part : Text) : Option ByteRange :=
  match splitAtFirst '-' (trim part) with
  | (first, some last) => ofBounds? size (trim first) (trim last)
  | (_, none) => none

/-- Joins the ranges that touch the current one; they begin in order. -/
def joinFrom (current : ByteRange) : List ByteRange → List ByteRange
  | [] => [current]
  | next :: later =>
    if next.start ≤ current.stop then joinFrom ⟨current.start, max current.stop next.stop⟩ later
    else current :: joinFrom next later

def join : List ByteRange → List ByteRange
  | [] => []
  | first :: later => joinFrom first later

def ofParts (size : Nat) (parts : List Text) : Except Refusal (List ByteRange) :=
  let ranges := parts.filterMap (ofPart? size)
  if ranges.isEmpty then .error .noRange
  else if ranges.any fun range => range.start < 0 || (size : Int) ≤ range.start then
    .error .unsatisfiable
  else if ranges.any fun range => range.stop ≤ range.start then .error .backwards
  else .ok (join (ranges.mergeSort fun a b => a.start ≤ b.start))

def read (size : Nat) (value : Text) : Except Refusal (List ByteRange) :=
  match splitAtFirst '=' value with
  | (_, none) => .error .malformed
  | (unit, some ranges) =>
    if lower (trim unit) == "bytes".toList then ofParts size (splitOn ',' ranges)
    else .error .otherUnit

def Refusal.response : Refusal → Response
  | malformed => .ofText 400 "Malformed range header."
  | otherUnit => .ofText 400 "Only support bytes range"
  | noRange => .ofText 400 "Range header: range must be requested"
  | backwards => .ofText 400 "Range header: start must be less than end"
  | unsatisfiable => .ofText 416 ""

def slice (range : ByteRange) (bytes : Bytes) : Bytes :=
  (bytes.drop range.start.toNat).take (range.stop - range.start).toNat

end ByteRange

/-- A page that is kept as a file. Parts of it are given out unless they are tied to a version of
the file, which no request can name. -/
def pageResponse (bytes : Bytes) (request : Request) : Response :=
  match request.header? "range", request.header? "if-range" with
  | some wanted, none =>
    match ByteRange.read bytes.length wanted with
    | .error refusal => refusal.response
    | .ok [range] => { Response.html (.file (range.slice bytes)) with status := 206 }
    -- Several parts come with a boundary that is drawn anew for each answer.
    | .ok _ => ⟨206, [("content-type", "multipart/byteranges".toList)], .generated⟩
  | _, _ => .html (.file bytes)

end SnippetGauge.Service
