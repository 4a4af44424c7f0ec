import SnippetGauge.Files
import SnippetGauge.Json.Print
import SnippetGauge.Report
import SnippetGauge.Service.Body
import SnippetGauge.Service.ByteRange
import SnippetGauge.Service.Telemetry
import SnippetGauge.Text.Printable

set_option autoImplicit false

namespace SnippetGauge.Service

open Text Encoding

-- The spellings are those of the tokens of the analysis, with the halves of surrogate pairs that
-- have come into them.
inductive EngineResult where
  | done (analysis : Analysis) (spellings : List (List Mark))
  | raised (kind message : String)
  | lost

abbrev Engine := List Mark → Option Language → EngineResult

def tokenTexts (source : Text) (language : Language) : List Text :=
  (tokenize source language).map Token.value

def spelledTokens (code : List Mark) (language : Language) : List (List Mark) :=
  List.zipWith (List.zipWith Mark.restore) (tokenTexts (code.map Mark.near) language)
    (tokenTexts (code.map Mark.far) language)

def Engine.standard : Engine := fun code hint =>
  let analysis := analyze (code.map Mark.near) hint
  .done analysis (spelledTokens code analysis.language)

def Engine.ask (engine : Engine) (code : List Mark) (request : AnalyzeRequest) : EngineResult :=
  match request.languageHint with
  | .ok hint => engine code hint
  | .error message => .raised "ValueError" message

structure Site where
  settings : Settings
  files : Files

structure Context where
  site : Site
  engine : Engine
  now : String
  telemetry : Telemetry

structure Outcome where
  result : Except Crash Response
  log : List LogRecord
  events : List Event

namespace Outcome

def plain (response : Response) : Outcome := ⟨.ok response, [], []⟩

def mapResponse (outcome : Outcome) (change : Response → Response) : Outcome :=
  { outcome with result := outcome.result.map change }

end Outcome

inductive Endpoint where
  | analyze
  | health
  | metrics
  | root
  | docs
  | redoc
  | schema
  deriving DecidableEq, Repr

def Endpoint.methods : Endpoint → List String
  | analyze => ["POST"]
  | health | metrics | root => ["GET"]
  | docs | redoc | schema => ["GET", "HEAD"]

def version : String := "1.0.0"

def analysisJson (analysis : Analysis) (withTokens : Bool) : Json :=
  .obj ([("language", .str analysis.language.name),
      ("debugResults", .arr (analysis.findings.map Finding.toJson)),
      ("complexity", analysis.complexity.toJson),
      ("tokenCount", .int analysis.tokenCount),
      ("success", .bool true)] ++
    if withTokens then [("tokens", .arr (analysis.tokens.map Token.toJson))] else [])

def lostAnalysis : Crash :=
  ⟨"AttributeError", "'NoneType' object has no attribute 'language'".toList⟩

def unwritable (start : Nat) (units : List Nat) : Crash where
  kind := "PydanticSerializationError"
  message :=
    "Error serializing to JSON: UnicodeEncodeError: 'utf-8' codec can't encode character".toList ++
      (match units with
      | [unit] => " '".toList ++ Json.unitEscape unit ++ ("' in position " ++ toString start).toList
      | _ => ("s in position " ++ toString start ++ "-" ++ toString (start + units.length - 1)).toList) ++
      ": surrogates not allowed".toList

def tokenCrash? (spellings : List (List Mark)) : Option Crash :=
  spellings.findSome? fun token =>
    (Mark.firstHalves? token).map fun (start, units) => unwritable start units

def shownAnalysis (analysis : Analysis) (spellings : List (List Mark)) (withTokens : Bool) :
    Except Crash Response :=
  match if withTokens then tokenCrash? spellings else none with
  | some crash => .error crash
  | none => .ok (.ofJson 200 (analysisJson analysis withTokens))

-- Records below the level of a warning are not modelled: that of a finished analysis tells how long
-- it took.
def analyzeCode (engine : Engine) (code : List Mark) (request : AnalyzeRequest) : Outcome :=
  match engine.ask code request with
  | .done analysis spellings =>
    -- The analysis is counted even if it cannot be written.
    ⟨shownAnalysis analysis spellings request.includeTokens, [],
      [.accepted, .analyzed analysis.language]⟩
  | .raised kind message =>
    ⟨.ok (.ofError 500 "Internal server error"),
      [⟨.error, "Analysis error: ".toList ++ Crash.logged ⟨kind, message.toList⟩⟩],
      [.accepted, .failed]⟩
  -- The request is counted before the engine runs; the failure is counted by who takes the crash.
  | .lost => ⟨.error lostAnalysis, [], [.accepted]⟩

def analyzeRequest (engine : Engine) (request : AnalyzeRequest) : Outcome :=
  match request.code with
  | none | some [] => ⟨.ok (.ofError 400 "No code provided"), [], [.rejectedEmpty]⟩
  | some code => analyzeCode engine code request

def stepText : Step → Text
  | .field name => quoted name.toList
  | .index n => (toString n).toList

/-- Only the last step of the path and the kind of the problem are logged, never the value. -/
def violationText (violation : Violation) : Text :=
  "\x7b'field': ".toList ++ stepText (violation.path.getLastD (.field "unknown")) ++
    ", 'type': ".toList ++ quoted violation.problem.name.toList ++ "\x7d".toList

def validationMessage (request : Request) (found : List Violation) : Text :=
  "Validation error on ".toList ++ request.method.toList ++ ' ' :: request.path ++ ": [".toList ++
    ", ".toList.intercalate ((found.take 5).map violationText) ++ "]".toList

def invalidRequest (request : Request) (found : List Violation) : Outcome :=
  ⟨.ok (.ofError 422 "Invalid request format"), [⟨.warning, validationMessage request found⟩], []⟩

def handleAnalyze (context : Context) (request : Request) : Outcome :=
  match readAnalyzeRequest context.site.settings.maxCodeLength request with
  | .ok parsed => analyzeRequest context.engine parsed
  | .error .unreadable => .plain (.ofError 400 "There was an error parsing the body")
  | .error (.invalid found) => invalidRequest request found

def healthJson (now : String) : Json :=
  .obj [("status", .str "ok"), ("version", .str version), ("timestamp", .str now)]

def metricsJson (telemetry : Telemetry) (now : String) : Json :=
  .obj [("success", .bool true), ("metrics", telemetry.toJson), ("timestamp", .str now)]

def serviceJson : Json :=
  .obj [("name", .str "Codescope API"), ("version", .str version),
    ("endpoints", .obj [("/api/analyze", .str "POST - Analyze a code snippet"),
      ("/health", .str "GET - Health check")])]

def indexPath (settings : Settings) : Text :=
  if settings.staticDir.isEmpty then "index.html".toList
  else settings.staticDir.toList ++ "/index.html".toList

def rootResponse (site : Site) (request : Request) : Response :=
  match site.files (indexPath site.settings) with
  | .file content => pageResponse content request
  | _ => .ofJson 200 serviceJson

def Endpoint.handle (endpoint : Endpoint) (context : Context) (request : Request) : Outcome :=
  match endpoint with
  | analyze => handleAnalyze context request
  | health => .plain (.ofJson 200 (healthJson context.now))
  | metrics => .plain (.ofJson 200 (metricsJson context.telemetry context.now))
  | root => .plain (rootResponse context.site request)
  | docs | redoc => .plain (.html .generated)
  | schema => .plain ⟨200, [("content-type", "application/json".toList)], .generated⟩

end SnippetGauge.Service
