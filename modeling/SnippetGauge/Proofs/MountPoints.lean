import SnippetGauge.Proofs.AnswerCourse

set_option autoImplicit false

namespace SnippetGauge.Service

open Text

structure PathLine where
  level : LogLevel
  before : Text
  after : Option Text

namespace PathLine

def on (path : Text) (line : PathLine) : LogRecord where
  level := line.level
  message := line.before ++ (line.after.map (path ++ ·)).getD []

def fixed (entry : LogRecord) : PathLine := ⟨entry.level, entry.message, none⟩

@[simp] theorem on_fixed (path : Text) (entry : LogRecord) : (fixed entry).on path = entry := by
  simp [fixed, on]

@[simp] theorem map_on_fixed (path : Text) (log : List LogRecord) :
    (log.map fixed).map (on path) = log := by
  simp [Function.comp_def]

end PathLine

def Request.at (request : Request) (path : Text) : Request := { request with path }

def validationLine (request : Request) (found : List Violation) : PathLine where
  level := .warning
  before := "Validation error on ".toList ++ request.method.toList ++ [' ']
  after := some (": [".toList ++ ", ".toList.intercalate ((found.take 5).map violationText) ++
    "]".toList)

theorem on_validationLine (path : Text) (request : Request) (found : List Violation) :
    (validationLine request found).on path =
      ⟨.warning, validationMessage (request.at path) found⟩ := by
  unfold validationMessage
  simp only [validationLine, PathLine.on, Request.at, Option.map_some, Option.getD_some,
    List.append_assoc, List.cons_append, List.nil_append]

def crashLine (request : Request) (crash : Crash) : PathLine where
  level := .error
  before := "Unhandled exception on ".toList ++ request.method.toList ++ [' ']
  after := some (": ".toList ++ crash.logged)

theorem on_crashLine (path : Text) (request : Request) (crash : Crash) :
    (crashLine request crash).on path = ⟨.error, crashMessage (request.at path) crash⟩ := by
  unfold crashMessage
  simp only [crashLine, PathLine.on, Request.at, Option.map_some, Option.getD_some,
    List.append_assoc, List.cons_append, List.nil_append]

def Handler.IsAlike (handler : Handler) (context : Context) (request : Request)
    (paths : List Text) : Prop :=
  ∃ (result : Except Crash Response) (lines : List PathLine) (events : List Event),
    ∀ path ∈ paths,
      handler context (request.at path) = ⟨result, lines.map (PathLine.on path), events⟩

section

variable {context : Context} {request : Request} {paths : List Text} {inner : Handler}

theorem isAlike_of_eq {handler : Handler} (outcome : Outcome)
    (same : ∀ path ∈ paths, handler context (request.at path) = outcome) :
    handler.IsAlike context request paths := by
  refine ⟨outcome.result, outcome.log.map PathLine.fixed, outcome.events, ?_⟩
  intro path mem
  rw [same path mem, PathLine.map_on_fixed]

theorem handleAnalyze_isAlike : Handler.IsAlike handleAnalyze context request paths := by
  have read (path : Text) :
      readAnalyzeRequest context.site.settings.maxCodeLength (request.at path) =
        readAnalyzeRequest context.site.settings.maxCodeLength request := rfl
  cases found : readAnalyzeRequest context.site.settings.maxCodeLength request with
  | ok parsed =>
    refine isAlike_of_eq (analyzeRequest context.engine parsed) fun path _ => ?_
    simp only [handleAnalyze, read, found]
  | error problem =>
    cases problem with
    | unreadable =>
      refine isAlike_of_eq (.plain (.ofError 400 "There was an error parsing the body")) fun path _ => ?_
      simp only [handleAnalyze, read, found]
    | invalid violations =>
      refine ⟨.ok (.ofError 422 "Invalid request format"), [validationLine request violations], [],
        fun path _ => ?_⟩
      simp only [handleAnalyze, read, found, invalidRequest, List.map_cons, List.map_nil,
        on_validationLine]

theorem handle_isAlike {endpoint : Endpoint} (other : endpoint ≠ .root) :
    Handler.IsAlike endpoint.handle context request paths := by
  cases endpoint with
  | analyze => exact handleAnalyze_isAlike
  | root => exact absurd rfl other
  | health | metrics | docs | redoc | schema => exact isAlike_of_eq _ fun _ _ => rfl

theorem route_isAlike {endpoint : Endpoint} (other : endpoint ≠ .root)
    (mounted : ∀ path ∈ paths, endpoint? context.site.settings path = some endpoint) :
    Handler.IsAlike route context request paths := by
  obtain ⟨result, lines, events, same⟩ : Handler.IsAlike endpoint.handle context request paths :=
    handle_isAlike other
  have method (path : Text) : (request.at path).method = request.method := rfl
  have routed (path : Text) (mem : path ∈ paths) :
      endpoint? context.site.settings (request.at path).path = some endpoint := mounted path mem
  cases allowed : endpoint.methods.contains request.method with
  | true =>
    refine ⟨result, lines, events, fun path mem => ?_⟩
    simp only [route, routed path mem, method, allowed, if_true, same path mem]
  | false =>
    refine isAlike_of_eq (.plain (notAllowed endpoint)) fun path mem => ?_
    simp only [route, routed path mem, method, allowed, Bool.false_eq_true, if_false]

theorem withSecurityHeaders_isAlike (alike : inner.IsAlike context request paths) :
    Handler.IsAlike (withSecurityHeaders inner) context request paths := by
  obtain ⟨result, lines, events, same⟩ := alike
  refine ⟨result.map (·.withHeaders securityHeaders), lines, events, fun path mem => ?_⟩
  simp only [withSecurityHeaders, same path mem, Outcome.mapResponse]

theorem withSizeLimit_isAlike (alike : inner.IsAlike context request paths) :
    Handler.IsAlike (withSizeLimit inner) context request paths := by
  have method (path : Text) : (request.at path).method = request.method := rfl
  have declared (path : Text) : declaredLength? (request.at path) = declaredLength? request := rfl
  simp only [Handler.IsAlike, withSizeLimit, method, declared]
  split
  next error _ => exact ⟨.error ⟨"ValueError", error.message⟩, [], [], fun _ _ => rfl⟩
  next length _ =>
    split
    next => exact ⟨.ok (tooLarge context.site.settings.maxRequestSize), [], [], fun _ _ => rfl⟩
    next => exact alike
  next => exact alike

theorem withCors_isAlike (alike : inner.IsAlike context request paths) :
    Handler.IsAlike (withCors inner) context request paths := by
  let policy := CorsPolicy.ofSettings context.site.settings
  have asked (path : Text) : (request.at path).preflight? = request.preflight? := rfl
  cases found : request.preflight? with
  | none =>
    obtain ⟨result, lines, events, same⟩ := alike
    let more := policy.simpleHeaders (request.header? "origin")
    refine ⟨result.map (·.withHeaders more), lines, events, fun path mem => ?_⟩
    have origin : (request.at path).header? "origin" = request.header? "origin" := rfl
    simp only [withCors, asked, found, same path mem, Outcome.mapResponse, origin, more, policy]
  | some wanted =>
    refine isAlike_of_eq (.plain (policy.preflight wanted.1 wanted.2 request)) fun path _ => ?_
    simp only [withCors, asked, found]
    rfl

theorem guarded_alike (alike : inner.IsAlike context request paths) :
    ∃ (response : Response) (lines : List PathLine) (events : List Event), ∀ path ∈ paths,
      guarded inner context (request.at path) =
        ⟨response, lines.map (PathLine.on path), events⟩ := by
  obtain ⟨result, lines, events, same⟩ := alike
  cases result with
  | ok response =>
    refine ⟨response, lines, events, fun path mem => ?_⟩
    simp only [guarded, same path mem]
  | error crash =>
    refine ⟨.ofError 500 "Internal server error", lines ++ [crashLine request crash],
      events ++ [.failed], fun path mem => ?_⟩
    simp only [guarded, same path mem, List.map_append, List.map_cons, List.map_nil, on_crashLine]

theorem enabledLog_map_on (settings : Settings) (path : Text) (lines : List PathLine) :
    enabledLog settings (lines.map (PathLine.on path)) =
      (lines.filter fun line => settings.logLevel.rank ≤ line.level.rank).map
        (PathLine.on path) := by
  rw [enabledLog, List.filter_map]
  rfl

end

def Visit.at (visit : Visit) (path : String) : Visit :=
  { visit with request := visit.request.at path.toList }

/-- Under each of the paths a visit has the same answer and leaves the same counters; only lines of
the log tell the paths apart. -/
def AnswersAlike (site : Site) (counts : Telemetry) (visit : Visit) (paths : List String) : Prop :=
  ∃ (response : Response) (lines : List PathLine) (events : List Event) (next : Telemetry),
    ∀ path ∈ paths, step site counts (visit.at path) =
      (⟨response, lines.map (PathLine.on path.toList), events⟩, next)

theorem answersAlike_of_mounted (site : Site) (counts : Telemetry) (visit : Visit)
    {paths : List String} (endpoint : Endpoint) (other : endpoint ≠ .root)
    (mounted : ∀ path ∈ paths, endpoint? site.settings path.toList = some endpoint) :
    AnswersAlike site counts visit paths := by
  have routed : Handler.IsAlike route ⟨site, visit.engine, visit.now, counts⟩ visit.request
      (paths.map String.toList) :=
    route_isAlike other (by simpa using mounted)
  obtain ⟨response, lines, events, same⟩ :=
    guarded_alike <| withCors_isAlike <| withSizeLimit_isAlike <| withSecurityHeaders_isAlike routed
  let enabled := lines.filter fun line => site.settings.logLevel.rank ≤ line.level.rank
  refine ⟨response, enabled, events, counts.recordAll events, fun path mem => ?_⟩
  have reply := same path.toList (List.mem_map_of_mem mem)
  simp only [step, answer, Visit.at, reply, enabledLog_map_on, enabled]

theorem mountPoints_answerAlike (site : Site) (counts : Telemetry) (visit : Visit) :
    AnswersAlike site counts visit ["/api/analyze", "/api/v1/analyze", "/analyze"] ∧
      AnswersAlike site counts visit ["/health", "/api/v1/health"] ∧
      AnswersAlike site counts visit ["/metrics", "/api/v1/metrics"] := by
  refine ⟨answersAlike_of_mounted site counts visit .analyze (by decide) ?_,
    answersAlike_of_mounted site counts visit .health (by decide) ?_,
    answersAlike_of_mounted site counts visit .metrics (by decide) ?_⟩ <;>
  cases debug : site.settings.debug <;>
  simp only [endpoint?, routes, debug] <;>
  decide

end SnippetGauge.Service
