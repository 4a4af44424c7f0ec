import SnippetGauge.Service.Route

set_option autoImplicit false

namespace SnippetGauge.Service

open Text

structure CorsPolicy where
  origins : List Text
  deriving DecidableEq, Repr

namespace CorsPolicy

def ofSettings (settings : Settings) : CorsPolicy := ⟨settings.corsOrigins⟩

def allowsAll (policy : CorsPolicy) : Bool := policy.origins.contains ['*']

def allows (policy : CorsPolicy) (origin : Text) : Bool :=
  policy.allowsAll || policy.origins.contains origin

/-- A star stands for every origin only where credentials are not at stake. -/
def originHeaders (policy : CorsPolicy) (origin : Text) : List (String × Text) :=
  if policy.allowsAll then [("access-control-allow-origin", ['*'])]
  else
    (if policy.allows origin then [("access-control-allow-origin", origin)] else []) ++
      [("access-control-allow-credentials", "true".toList)]

def methods : List Text := ["GET".toList, "POST".toList, "OPTIONS".toList]

def refusals (policy : CorsPolicy) (origin method : Text) (privateNetwork : Bool) : List String :=
  (if policy.allows origin then [] else ["origin"]) ++
    (if methods.contains method then [] else ["method"]) ++
    (if privateNetwork then ["private-network"] else [])

def preflightVary : String :=
  "Origin, Access-Control-Request-Method, Access-Control-Request-Headers, " ++
    "Access-Control-Request-Private-Network"

def preflight (policy : CorsPolicy) (origin method : Text) (request : Request) : Response :=
  let refused := policy.refusals origin method
    (request.header? "access-control-request-private-network").isSome
  let answer : Response :=
    if refused.isEmpty then .ofText 200 "OK"
    else .ofText 400 ("Disallowed CORS " ++ ", ".intercalate refused)
  answer.withHeaders <|
    policy.originHeaders origin ++
    [("vary", preflightVary.toList),
      ("access-control-allow-methods", ", ".toList.intercalate methods),
      ("access-control-max-age", "600".toList)] ++
    match request.header? "access-control-request-headers" with
    | some wanted => [("access-control-allow-headers", wanted)]
    | none => []

def simpleHeaders (policy : CorsPolicy) (origin : Option Text) : List (String × Text) :=
  ("vary", "Origin".toList) ::
    match origin with
    | some origin => policy.originHeaders origin
    | none => []

end CorsPolicy

def Request.preflight? (request : Request) : Option (Text × Text) :=
  match request.method, request.header? "origin", request.header? "access-control-request-method" with
  -- Without both headers it is a request like any other.
  | "OPTIONS", some origin, some method => some (origin, method)
  | _, _, _ => none

def withCors (inner : Handler) : Handler := fun context request =>
  let policy := CorsPolicy.ofSettings context.site.settings
  match request.preflight? with
  | some (origin, method) => .plain (policy.preflight origin method request)
  | none =>
    (inner context request).mapResponse
      (·.withHeaders (policy.simpleHeaders (request.header? "origin")))

end SnippetGauge.Service
