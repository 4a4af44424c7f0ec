import SnippetGauge.Json.Value
import SnippetGauge.Text.Line
import SnippetGauge.Text.Printable

set_option autoImplicit false

namespace SnippetGauge.Json

open Text

/-- `step` is the width of one level when every item has a line of its own. -/
structure Layout where
  comma : String
  colon : String
  step : Option Nat

def Layout.compact : Layout := ⟨",", ":", none⟩

def Layout.spaced : Layout := ⟨", ", ": ", none⟩

def Layout.indented : Layout := ⟨",", ": ", some 2⟩

def Layout.break (layout : Layout) (depth : Nat) : Text :=
  match layout.step with
  | none => []
  | some step => '\n' :: List.replicate (step * depth) ' '

def unitEscape (n : Nat) : Text := '\\' :: 'u' :: hexDigits 4 n

def escapeChar (c : Char) : Text :=
  if c == '"' then "\\\"".toList
  else if c == '\\' then "\\\\".toList
  else if c == '\n' then "\\n".toList
  else if c == '\r' then "\\r".toList
  else if c == '\t' then "\\t".toList
  else if c == Char.ofNat 8 then "\\b".toList
  else if c == Char.ofNat 12 then "\\f".toList
  else if ' ' ≤ c && c ≤ '~' then [c]
  else if c.toNat < 0x10000 then unitEscape c.toNat
  else
    -- A surrogate pair: ten bits in each half.
    let n := c.toNat - 0x10000
    unitEscape (0xD800 + n / 0x400) ++ unitEscape (0xDC00 + n % 0x400)

def escapeMark : Mark → Text
  | .char c => escapeChar c
  | .half n _ => unitEscape n

def writeString (text : Text) : Text := '"' :: text.flatMap escapeChar ++ ['"']

def writeInt (n : Int) : Text := (toString n).toList

def bracketed (layout : Layout) (depth : Nat) (first last : Char) (items : List Text) : Text :=
  match items with
  | [] => [first, last]
  | item :: later =>
    first :: layout.break (depth + 1) ++ item ++
      later.flatMap (fun next => layout.comma.toList ++ layout.break (depth + 1) ++ next) ++
      layout.break depth ++ [last]

mutual

def write (layout : Layout) (depth : Nat) : Json → Text
  | null => "null".toList
  | bool true => "true".toList
  | bool false => "false".toList
  | int n => writeInt n
  | real written => written.toList
  | str value => writeString value.toList
  | brokenStr marks => '"' :: marks.flatMap escapeMark ++ ['"']
  | arr items => bracketed layout depth '[' ']' (writeItems layout (depth + 1) items)
  | obj members => bracketed layout depth '\x7b' '\x7d' (writeMembers layout (depth + 1) members)

def writeItems (layout : Layout) (depth : Nat) : List Json → List Text
  | [] => []
  | item :: later => write layout depth item :: writeItems layout depth later

def writeMembers (layout : Layout) (depth : Nat) : List (String × Json) → List Text
  | [] => []
  | (key, value) :: later =>
    (writeString key.toList ++ layout.colon.toList ++ write layout depth value) ::
      writeMembers layout depth later

end

def print (layout : Layout) (value : Json) : String := String.ofList (write layout 0 value)

end SnippetGauge.Json
