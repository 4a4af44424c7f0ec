import SnippetGauge.Text.Mark

set_option autoImplicit false

namespace SnippetGauge

inductive Json where
  | null
  | bool (value : Bool)
  | int (value : Int)
  /-- A number with a fraction or an exponent as it is written, or `NaN` or `Infinity`. -/
  | real (written : String)
  | str (value : String)
  /-- A string in which some mark is half of a surrogate pair. -/
  | brokenStr (marks : List Mark)
  | arr (items : List Json)
  | obj (members : List (String × Json))
  deriving Repr

namespace Json

def ofMarks (marks : List Mark) : Json :=
  match Mark.chars? marks with
  | some text => str (String.ofList text)
  | none => brokenStr marks

def member? (members : List (String × Json)) (key : String) : Option Json :=
  (members.reverse.find? (·.1 == key)).map (·.2)

end Json

end SnippetGauge
