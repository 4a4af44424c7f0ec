import SnippetGauge.Scalar
import SnippetGauge.Settings.EnvFile
import SnippetGauge.Text.LetterCase
import SnippetGauge.Text.Search

set_option autoImplicit false

namespace SnippetGauge

open Text Checked Scalar

inductive LogLevel where
  | debug
  | info
  | warning
  | error
  deriving DecidableEq, Repr

namespace LogLevel

def all : List LogLevel := [debug, info, warning, error]

def name : LogLevel → String
  | debug => "DEBUG"
  | info => "INFO"
  | warning => "WARNING"
  | error => "ERROR"

def rank : LogLevel → Nat
  | debug => 0
  | info => 1
  | warning => 2
  | error => 3

def ofName? (name : String) : Option LogLevel := all.find? (·.name == name)

theorem ofName?_name (level : LogLevel) : ofName? level.name = some level := by
  cases level <;> decide

end LogLevel

structure Settings where
  host : String
  port : Int
  debug : Bool
  logLevel : LogLevel
  allowedOrigins : String
  maxRequestSize : Int
  maxCodeLength : Int
  staticDir : String
  deriving DecidableEq, Repr

namespace Settings

def defaults : Settings where
  host := "0.0.0.0"
  port := 8080
  debug := false
  logLevel := .info
  allowedOrigins := "*"
  maxRequestSize := 1048576
  maxCodeLength := 50000
  staticDir := "static"

/-- Variables by their names in small letters; a later one hides those before it. -/
structure Source where
  entries : List (Text × Option Text)

def Source.get? (source : Source) (name : String) : Option String :=
  match source.entries.reverse.find? fun entry => lower entry.1 == lower name.toList with
  | some (_, some value) => some (String.ofList value)
  | _ => none

def parseLevel (text : String) : Checked LogLevel :=
  match LogLevel.ofName? text with
  | some level => .ok level
  | none => fail .literalError

def ofSources (environment file : Source) : Checked Settings :=
  -- Each variable is looked up on its own, so the sources may be mixed.
  let get? (name : String) := (environment.get? name).orElse fun _ => file.get? name
  let read {α : Type} (name : String) (absent : α) (check : String → Checked α) : Checked α :=
    toField name (.ok absent) check (get? name)
  (both (read "HOST" defaults.host .ok) <|
    both (read "PORT" defaults.port parseInt) <|
    both (read "DEBUG" defaults.debug parseBool) <|
    both (read "LOG_LEVEL" defaults.logLevel parseLevel) <|
    both (read "ALLOWED_ORIGINS" defaults.allowedOrigins .ok) <|
    both (read "MAX_REQUEST_SIZE" defaults.maxRequestSize parseInt) <|
    both (read "MAX_CODE_LENGTH" defaults.maxCodeLength parseInt) <|
    read "STATIC_DIR" defaults.staticDir .ok).map
    fun (host, port, debug, logLevel, allowedOrigins, maxRequestSize, maxCodeLength, staticDir) =>
      ⟨host, port, debug, logLevel, allowedOrigins, maxRequestSize, maxCodeLength, staticDir⟩

def load (environment : List (String × String)) (envFile : Option String) : Checked Settings :=
  let entries := environment.map fun (name, value) => (name.toList, value.toList)
  let fromFile :=
    match envFile with
    | some text => EnvFile.read entries text.toList
    | none => []
  ofSources ⟨entries.map fun (name, value) => (name, some value)⟩ ⟨fromFile⟩

def corsPieces (settings : Settings) : List Text :=
  ((splitOn ',' settings.allowedOrigins.toList).map trim).filter (!·.isEmpty)

def corsOrigins (settings : Settings) : List Text :=
  if settings.corsPieces.contains ['*'] then [['*']] else settings.corsPieces

def toJson (settings : Settings) : Json :=
  .obj [("HOST", .str settings.host), ("PORT", .int settings.port),
    ("DEBUG", .bool settings.debug), ("LOG_LEVEL", .str settings.logLevel.name),
    ("ALLOWED_ORIGINS", .str settings.allowedOrigins),
    ("MAX_REQUEST_SIZE", .int settings.maxRequestSize),
    ("MAX_CODE_LENGTH", .int settings.maxCodeLength), ("STATIC_DIR", .str settings.staticDir)]

end Settings

end SnippetGauge
