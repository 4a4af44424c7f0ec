import SnippetGauge.Service.Route

set_option autoImplicit false

namespace SnippetGauge.Service

open Text

/-- Header values are Latin-1 text, where three superscripts count as digits too. -/
def isHeaderDigit (c : Char) : Bool := isDigit c || c == '²' || c == '³' || c == '¹'

inductive LengthError where
  | notNumber (value : Text)
  | tooLong (digits : Nat)
  deriving DecidableEq, Repr

def LengthError.message : LengthError → Text
  | notNumber value => "invalid literal for int() with base 10: ".toList ++ quoted value
  | tooLong digits =>
    ("Exceeds the limit (" ++ toString maxDigits ++
      " digits) for integer string conversion: value has " ++ toString digits ++
      " digits; use sys.set_int_max_str_digits() to increase the limit").toList

def readLength (digits : Text) : Except LengthError Nat :=
  let leading := digits.takeWhile isDigit
  -- The number of digits is judged before what follows them.
  if leading.length > maxDigits then .error (.tooLong leading.length)
  else if digits.all isDigit then
    .ok (ofDigits (digits.map fun c => c.toNat - '0'.toNat))
  else .error (.notNumber digits)

def declaredLength? (request : Request) : Option (Except LengthError Nat) :=
  match request.header? "content-length" with
  | some value => if !value.isEmpty && value.all isHeaderDigit then some (readLength value) else none
  | none => none

def hasLimitedBody (method : String) : Bool := ["POST", "PUT", "PATCH"].contains method

def tooLarge (limit : Int) : Response :=
  .ofJson 413 (.obj [("success", .bool false), ("error", .str "Request too large"),
    ("details", .str ("Request body exceeds " ++ toString limit ++ " bytes"))])

def withSizeLimit (inner : Handler) : Handler := fun context request =>
  let limit := context.site.settings.maxRequestSize
  match if hasLimitedBody request.method then declaredLength? request else none with
  | some (.error error) => ⟨.error ⟨"ValueError", error.message⟩, [], []⟩
  | some (.ok length) => if limit < length then .plain (tooLarge limit) else inner context request
  | none => inner context request

end SnippetGauge.Service
