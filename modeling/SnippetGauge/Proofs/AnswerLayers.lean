import SnippetGauge.Proofs.LengthHeader

set_option autoImplicit false

namespace SnippetGauge.Service

open Text

def Request.AsksPage (request : Request) (site : Site) : Prop :=
  request.method = "GET" ∧ request.path = ['/'] ∧
    ∃ bytes, site.files (indexPath site.settings) = .file bytes

namespace Response

def Carries (response : Response) (name : String) (value : Text) : Prop :=
  (name, value) ∈ response.headers

def names (response : Response) : List String := response.headers.map (·.1)

@[simp] theorem names_withHeaders (response : Response) (more : List (String × Text)) :
    (response.withHeaders more).names = response.names ++ more.map (·.1) :=
  List.map_append

theorem Carries.mem_names {response : Response} {name : String} {value : Text}
    (carried : response.Carries name value) : name ∈ response.names :=
  List.mem_map_of_mem carried

@[simp] theorem carries_withHeaders (response : Response) (more : List (String × Text))
    (name : String) (value : Text) :
    (response.withHeaders more).Carries name value ↔
      response.Carries name value ∨ (name, value) ∈ more :=
  List.mem_append

@[simp] theorem status_tooLarge (limit : Int) : (tooLarge limit).status = 413 := rfl

end Response

/-- The log tells of an exception that no handler of the routes has taken. -/
def Reply.IsUnhandled (reply : Reply) (request : Request) : Prop :=
  reply.response.status = 500 ∧ ∃ crash, ⟨.error, crashMessage request crash⟩ ∈ reply.log

inductive Routed (context : Context) (request : Request) : Outcome → Prop where
  | refused {status : Nat} {message : String} {log : List LogRecord} {events : List Event}
      (other : status ≠ 413)
      (quiet : ∀ entry ∈ log, ∀ crash, entry.message ≠ crashMessage request crash) :
      Routed context request ⟨.ok (.ofError status message), log, events⟩
  | notAllowed (endpoint : Endpoint) : Routed context request (.plain (notAllowed endpoint))
  | redirected (path : Text) : Routed context request (.plain (redirect request path))
  | reported (value : Json) (other : request.asksAnalysis = false) :
      Routed context request (.plain (.ofJson 200 value))
  | generated (kind : Text) :
      Routed context request (.plain ⟨200, [("content-type", kind)], .generated⟩)
  | page (bytes : Encoding.Bytes) (asked : request.AsksPage context.site) :
      Routed context request (.plain (pageResponse bytes request))
  | analyzed {parsed : AnalyzeRequest} {analysis : Analysis} {spellings : List (List Mark)}
      {events : List Event}
      (finished : finished? context.site.settings context.engine request =
        some (parsed, analysis, spellings)) :
      Routed context request
        ⟨.ok (.ofJson 200 (analysisJson analysis parsed.includeTokens)), [], events⟩
  | crashed (asks : request.asksAnalysis = true) (crash : Crash) (events : List Event) :
      Routed context request ⟨.error crash, [], events⟩

variable {context : Context} {request : Request}

theorem head?_crashMessage (request : Request) (crash : Crash) :
    (crashMessage request crash).head? = some 'U' := by
  unfold crashMessage
  simp

theorem head?_validationMessage (request : Request) (found : List Violation) :
    (validationMessage request found).head? = some 'V' := by
  unfold validationMessage
  simp

theorem Routed.ofError {status : Nat} (other : status ≠ 413) (message : String)
    (events : List Event) : Routed context request ⟨.ok (.ofError status message), [], events⟩ :=
  .refused other fun _ inside => absurd inside List.not_mem_nil

theorem Routed.ofLogged {status : Nat} (other : status ≠ 413) (message : String)
    {entry : LogRecord} (events : List Event) (start : entry.message.head? ≠ some 'U') :
    Routed context request ⟨.ok (.ofError status message), [entry], events⟩ := by
  refine .refused other fun found inside => ?_
  rw [List.mem_singleton.mp inside]
  rintro crash same
  exact start (same ▸ head?_crashMessage request crash)

theorem finished?_eq_some_iff {settings : Settings} {engine : Engine} {parsed : AnalyzeRequest}
    {analysis : Analysis} {spellings : List (List Mark)} :
    finished? settings engine request = some (parsed, analysis, spellings) ↔ ∃ code,
      readAnalyzeRequest settings.maxCodeLength request = .ok parsed ∧
        parsed.code = some code ∧ code ≠ [] ∧
          engine.ask code parsed = .done analysis spellings := by
  simp only [finished?]
  cases readAnalyzeRequest settings.maxCodeLength request with
  | error problem => simp
  | ok found =>
    simp only [Except.ok.injEq]
    constructor
    · intro finished
      split at finished
      next => contradiction
      next => contradiction
      next code filled holds =>
        split at finished
        next done =>
          simp only [Option.some.injEq, Prod.mk.injEq] at finished
          obtain ⟨rfl, rfl, rfl⟩ := finished
          exact ⟨code, rfl, holds, filled, done⟩
        next => contradiction
    · rintro ⟨code, rfl, holds, filled, done⟩
      cases code with
      | nil => contradiction
      | cons mark rest => simp only [holds, done]

theorem analyzeCode_routed (asks : request.asksAnalysis = true) {parsed : AnalyzeRequest}
    {code : List Mark}
    (read : readAnalyzeRequest context.site.settings.maxCodeLength request = .ok parsed)
    (holds : parsed.code = some code) (filled : code ≠ []) :
    Routed context request (analyzeCode context.engine code parsed) := by
  simp only [analyzeCode]
  cases result : context.engine.ask code parsed with
  | done analysis spellings =>
    have finished : finished? context.site.settings context.engine request = _ :=
      finished?_eq_some_iff.mpr ⟨code, read, holds, filled, result⟩
    cases half : showsHalf parsed spellings with
    | false =>
      simp only [shownAnalysis_of_not_showsHalf analysis half]
      exact .analyzed finished
    | true =>
      obtain ⟨crash, shown⟩ := shownAnalysis_of_showsHalf analysis half
      simp only [shown]
      exact .crashed asks crash _
  | raised kind message => exact .ofLogged (by decide) _ _ (by simp)
  | lost => exact .crashed asks lostAnalysis _

theorem handleAnalyze_routed (asks : request.asksAnalysis = true) :
    Routed context request (handleAnalyze context request) := by
  simp only [handleAnalyze]
  cases read : readAnalyzeRequest context.site.settings.maxCodeLength request with
  | ok parsed =>
    simp only [analyzeRequest]
    cases holds : parsed.code with
    | none => exact .ofError (by decide) _ _
    | some code =>
      cases code with
      | nil => exact .ofError (by decide) _ _
      | cons mark rest => exact analyzeCode_routed asks read holds (by simp)
  | error problem =>
    cases problem with
    | unreadable => exact .ofError (by decide) _ _
    | invalid found => exact .ofLogged (by decide) _ _ (by simp [head?_validationMessage])

theorem rootResponse_routed (found : endpoint? context.site.settings request.path = some .root)
    (asked : request.method = "GET") :
    Routed context request (.plain (rootResponse context.site request)) := by
  have home : request.path = ['/'] := by
    obtain ⟨name, listed, spelled⟩ := exists_route_of_endpoint? found
    rw [← spelled]
    cases debug : context.site.settings.debug <;> simp_all [routes]
  simp only [rootResponse]
  split
  next bytes kept => exact .page bytes ⟨asked, home, bytes, kept⟩
  next => exact .reported _ (not_asksAnalysis_of_endpoint? found (by simp))

theorem handle_routed {endpoint : Endpoint}
    (found : endpoint? context.site.settings request.path = some endpoint)
    (allowed : endpoint.methods.contains request.method = true) :
    Routed context request (endpoint.handle context request) := by
  cases endpoint with
  | analyze =>
    have posted : request.method = "POST" := by simpa [Endpoint.methods] using allowed
    exact handleAnalyze_routed (asksAnalysis_of_endpoint? found posted)
  | root => exact rootResponse_routed found (by simpa [Endpoint.methods] using allowed)
  | health => exact .reported _ (not_asksAnalysis_of_endpoint? found (by simp))
  | metrics => exact .reported _ (not_asksAnalysis_of_endpoint? found (by simp))
  | docs => exact .generated _
  | redoc => exact .generated _
  | schema => exact .generated _

theorem route_routed (context : Context) (request : Request) :
    Routed context request (route context request) := by
  simp only [route]
  cases found : endpoint? context.site.settings request.path with
  | none =>
    simp only [unmatched]
    split
    next => exact .redirected _
    next => exact .ofError (by decide) _ _
  | some endpoint =>
    by_cases allowed : endpoint.methods.contains request.method = true
    · simp only [allowed, if_true]
      exact handle_routed found allowed
    · simp only [allowed]
      exact .notAllowed endpoint

theorem Routed.of_error {crash : Crash} {log : List LogRecord} {events : List Event}
    (made : Routed context request ⟨.error crash, log, events⟩) :
    log = [] ∧ request.asksAnalysis = true := by
  cases made with
  | crashed asks => exact ⟨rfl, asks⟩

theorem Routed.status_ne {response : Response} {log : List LogRecord} {events : List Event}
    (made : Routed context request ⟨.ok response, log, events⟩) : response.status ≠ 413 := by
  cases made with
  | refused other => exact other
  | notAllowed => exact (by decide : 405 ≠ 413)
  | redirected => exact (by decide : 307 ≠ 413)
  | reported | generated | analyzed => exact (by decide : 200 ≠ 413)
  | page bytes => exact pageResponse_status_ne bytes request

theorem Routed.quiet {response : Response} {log : List LogRecord} {events : List Event}
    (made : Routed context request ⟨.ok response, log, events⟩) :
    ∀ entry ∈ log, ∀ crash, entry.message ≠ crashMessage request crash := by
  cases made with
  | refused _ quiet => exact quiet
  | notAllowed | redirected | reported | generated | page | analyzed => simp

theorem Routed.not_isUnhandled {response : Response} {log : List LogRecord} {events : List Event}
    (made : Routed context request ⟨.ok response, log, events⟩) (shown : Response) :
    ¬ Reply.IsUnhandled ⟨shown, enabledLog context.site.settings log, events⟩ request := by
  rintro ⟨-, crash, logged⟩
  exact made.quiet _ (List.mem_filter.mp logged).1 crash rfl

theorem status_preflight_ne (policy : CorsPolicy) (origin method : Text) (request : Request) :
    (policy.preflight origin method request).status ≠ 413 ∧
      (policy.preflight origin method request).status ≠ 500 := by
  simp only [CorsPolicy.preflight, Response.status_withHeaders]
  split
  next => exact (by decide : 200 ≠ 413 ∧ 200 ≠ 500)
  next => exact (by decide : 400 ≠ 413 ∧ 400 ≠ 500)

theorem names_preflightVerdict (verdict : Bool) (refusal : String) :
    (if verdict then Response.ofText 200 "OK" else .ofText 400 refusal).names =
      ["content-type"] := by
  cases verdict <;> rfl

theorem names_pageResponse (bytes : Encoding.Bytes) (request : Request) :
    (pageResponse bytes request).names = ["content-type"] := by
  simp only [pageResponse]
  split
  next =>
    split
    next refusal _ => cases refusal <;> rfl
    next => rfl
    next => rfl
  next => rfl

def routeHeaderNames : List String := ["content-type", "location", "allow"]

theorem Routed.names_subset {response : Response} {log : List LogRecord} {events : List Event}
    (made : Routed context request ⟨.ok response, log, events⟩) :
    response.names ⊆ routeHeaderNames := by
  have typed : ["content-type"] ⊆ routeHeaderNames := by decide
  have placed : ["location"] ⊆ routeHeaderNames := by decide
  have allowing : ["content-type", "allow"] ⊆ routeHeaderNames := by decide
  cases made with
  | refused | reported | generated | analyzed => exact typed
  | notAllowed => exact allowing
  | redirected => exact placed
  | page bytes asked => exact names_pageResponse bytes request ▸ typed

def simpleCors (context : Context) (request : Request) : List (String × Text) :=
  (CorsPolicy.ofSettings context.site.settings).simpleHeaders (request.header? "origin")

inductive AnsweredBy (context : Context) (request : Request) : Reply → Prop where
  | preflight (origin method : Text) (asked : request.preflight? = some (origin, method)) :
      AnsweredBy context request
        ⟨(CorsPolicy.ofSettings context.site.settings).preflight origin method request, [], []⟩
  | oversized (simple : request.preflight? = none)
      (limited : hasLimitedBody request.method = true)
      (exceeds : request.DeclaresOver context.site.settings.maxRequestSize) :
      AnsweredBy context request
        ⟨(tooLarge context.site.settings.maxRequestSize).withHeaders (simpleCors context request),
          [], []⟩
  | crashed (simple : request.preflight? = none)
      (limited : hasLimitedBody request.method = true) (crash : Crash) (events : List Event) :
      AnsweredBy context request
        ⟨.ofError 500 "Internal server error", [⟨.error, crashMessage request crash⟩], events⟩
  | routed {response : Response} {log : List LogRecord} {events : List Event}
      (simple : request.preflight? = none)
      (fits : ¬ (hasLimitedBody request.method = true ∧
        request.DeclaresOver context.site.settings.maxRequestSize))
      (made : Routed context request ⟨.ok response, log, events⟩) :
      AnsweredBy context request
        ⟨(response.withHeaders securityHeaders).withHeaders (simpleCors context request),
          enabledLog context.site.settings log, events⟩

theorem answer_of_passed (simple : request.preflight? = none)
    (passed : withSizeLimit (withSecurityHeaders route) context request =
      withSecurityHeaders route context request)
    (fits : ¬ (hasLimitedBody request.method = true ∧
      request.DeclaresOver context.site.settings.maxRequestSize)) :
    AnsweredBy context request (answer context request) := by
  have made := route_routed context request
  simp only [answer, guarded, withCors, simple, passed, withSecurityHeaders]
  generalize route context request = outcome at made
  obtain ⟨result, log, events⟩ := outcome
  cases result with
  | ok response => exact .routed simple fits made
  | error crash =>
    obtain ⟨rfl, asks⟩ := made.of_error
    simp only [Outcome.mapResponse, Except.map, List.nil_append, enabledLog_error]
    exact .crashed simple (hasLimitedBody_of_asksAnalysis asks) crash _

theorem answer_answeredBy (context : Context) (request : Request) :
    AnsweredBy context request (answer context request) := by
  cases asked : request.preflight? with
  | some found =>
    obtain ⟨origin, method⟩ := found
    simp only [answer, guarded, withCors, asked, Outcome.plain]
    exact .preflight origin method asked
  | none =>
    by_cases limited : hasLimitedBody request.method = true
    · cases declared : declaredLength? request with
      | none =>
        apply answer_of_passed asked
        · simp only [withSizeLimit, limited, declared, if_true]
        · simp [Request.DeclaresOver, declared]
      | some read =>
        cases read with
        | error problem =>
          rw [answer_of_lengthError limited declared]
          exact .crashed asked limited _ _
        | ok length =>
          by_cases exceeds : context.site.settings.maxRequestSize < length
          · rw [answer_of_declaresOver limited ⟨length, declared, exceeds⟩]
            exact .oversized asked limited ⟨length, declared, exceeds⟩
          · apply answer_of_passed asked
            · simp only [withSizeLimit, limited, declared, exceeds, if_true, if_false]
            · simpa [Request.DeclaresOver, declared] using fun _ => exceeds
    · apply answer_of_passed asked
      · simp only [withSizeLimit, limited]
        rfl
      · exact fun both => limited both.1

end SnippetGauge.Service
