import SnippetGauge.Service.Cors
import SnippetGauge.Service.SizeLimit

set_option autoImplicit false

namespace SnippetGauge.Service

open Text

def securityHeaders : List (String × Text) :=
  [("x-content-type-options", "nosniff".toList), ("x-frame-options", "DENY".toList),
    ("referrer-policy", "strict-origin-when-cross-origin".toList)]

def withSecurityHeaders (inner : Handler) : Handler := fun context request =>
  (inner context request).mapResponse (·.withHeaders securityHeaders)

structure Reply where
  response : Response
  log : List LogRecord
  events : List Event

def crashMessage (request : Request) (crash : Crash) : Text :=
  "Unhandled exception on ".toList ++ request.method.toList ++ ' ' :: request.path ++ ": ".toList ++
    crash.logged

/-- The answer to a crash bears no header of the inner layers. -/
def guarded (inner : Handler) (context : Context) (request : Request) : Reply :=
  let outcome := inner context request
  match outcome.result with
  | .ok response => ⟨response, outcome.log, outcome.events⟩
  | .error crash =>
    -- The counters keep what was counted up to the crash.
    ⟨.ofError 500 "Internal server error",
      outcome.log ++ [⟨.error, crashMessage request crash⟩], outcome.events ++ [.failed]⟩

def enabledLog (settings : Settings) (log : List LogRecord) : List LogRecord :=
  log.filter fun record => settings.logLevel.rank ≤ record.level.rank

def answer (context : Context) (request : Request) : Reply :=
  let reply := guarded (withCors (withSizeLimit (withSecurityHeaders route))) context request
  { reply with log := enabledLog context.site.settings reply.log }

structure Visit where
  request : Request
  engine : Engine
  now : String

def step (site : Site) (telemetry : Telemetry) (visit : Visit) : Reply × Telemetry :=
  let reply := answer ⟨site, visit.engine, visit.now, telemetry⟩ visit.request
  (reply, telemetry.recordAll reply.events)

def run (site : Site) : Telemetry → List Visit → List Reply × Telemetry
  | telemetry, [] => ([], telemetry)
  | telemetry, visit :: later =>
    let (reply, next) := step site telemetry visit
    let (replies, last) := run site next later
    (reply :: replies, last)

end SnippetGauge.Service
