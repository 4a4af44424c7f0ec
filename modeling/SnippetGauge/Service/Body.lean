import SnippetGauge.Json.Parse
import SnippetGauge.Service.AnalyzeRequest
import SnippetGauge.Service.Message

set_option autoImplicit false

namespace SnippetGauge.Service

open Text Encoding Checked

def isJsonType (value : Text) : Bool :=
  match splitOn '/' (lower (trim (splitAtFirst ';' value).1)) with
  | [main, sub] =>
    main == "application".toList && (sub == "json".toList || endsWith "+json".toList sub)
  | _ => false

inductive BodyError where
  | unreadable
  | invalid (found : List Violation)
  deriving DecidableEq, Repr

namespace BodyError

def ofProblem (steps : List Step) (problem : Problem) : BodyError :=
  invalid [⟨.field "body" :: steps, problem⟩]

def ofParse : Json.ParseError → BodyError
  | .invalid offset => ofProblem [.index offset] .jsonInvalid
  | .tooDeep | .longInteger => unreadable

end BodyError

def readJson (bytes : Bytes) : Except BodyError Json :=
  match detectedMarks? bytes with
  | none => .error .unreadable
  | some marks => (Json.parseMarks marks).mapError .ofParse

/-- A body of another type counts as a value, but not as an object. -/
def readValue (request : Request) : Except BodyError Json :=
  if request.body.isEmpty then .error (.ofProblem [] .missing)
  else if ((request.header? "content-type").map isJsonType).getD false then
    match readJson request.body with
    -- A body that is null counts as none.
    | .ok .null => .error (.ofProblem [] .missing)
    | result => result
  else .error (.ofProblem [] .modelAttributesType)

def readAnalyzeRequest (maxLength : Int) (request : Request) : Except BodyError AnalyzeRequest :=
  match readValue request with
  | .error error => .error error
  | .ok (.obj members) =>
    ((AnalyzeRequest.ofMembers maxLength members).under (.field "body")).mapError .invalid
  | .ok _ => .error (.ofProblem [] .modelAttributesType)

theorem languageHint_of_read {maxLength : Int} {request : Request} {parsed : AnalyzeRequest}
    (read : readAnalyzeRequest maxLength request = .ok parsed) :
    parsed.languageHint = .ok parsed.hint := by
  unfold readAnalyzeRequest at read
  split at read
  next => contradiction
  next members _ =>
    cases found : AnalyzeRequest.ofMembers maxLength members with
    | error problems =>
      rw [found] at read
      cases read
    | ok request =>
      rw [found] at read
      obtain rfl := Except.ok.inj read
      exact AnalyzeRequest.languageHint_of_ofMembers found
  next => contradiction

end SnippetGauge.Service
