import SnippetGauge.Proofs.AnswerCourse

set_option autoImplicit false

namespace SnippetGauge.Service

open Text

def Request.DeclaresOver (request : Request) (limit : Int) : Prop :=
  ∃ length, declaredLength? request = some (.ok length) ∧ limit < length

structure Request.DeclaresItsSize (request : Request) : Prop where
  declared : request.header? "content-length" = some (toString request.body.length).toList
  readable : (toString request.body.length).toList.length ≤ maxDigits

/-- The request is turned away for its size. No counter moves, and whatever the engine would say is
not asked for. -/
structure RefusesSize (site : Site) (counts : Telemetry) (visit : Visit) : Prop where
  status : (step site counts visit).1.response.status = 413
  uncounted : (step site counts visit).2 = counts
  unasked : ∀ engine, step site counts { visit with engine } = step site counts visit

section

variable {context : Context} {request : Request}

@[simp] theorem Response.status_ofJson (status : Nat) (value : Json) :
    (ofJson status value).status = status := rfl

@[simp] theorem Response.status_ofError (status : Nat) (message : String) :
    (ofError status message).status = status := rfl

@[simp] theorem Response.status_withHeaders (response : Response)
    (more : List (String × Text)) : (response.withHeaders more).status = response.status := rfl

@[simp] theorem Outcome.settledResponse_ok (response : Response) (log : List LogRecord)
    (events : List Event) : settledResponse ⟨.ok response, log, events⟩ = response := rfl

@[simp] theorem Outcome.settledResponse_error (crash : Crash) (log : List LogRecord)
    (events : List Event) :
    settledResponse ⟨.error crash, log, events⟩ = .ofError 500 "Internal server error" := rfl

@[simp] theorem Outcome.settledResponse_plain (response : Response) :
    (plain response).settledResponse = response := rfl

@[simp] theorem Outcome.status_mapResponse (outcome : Outcome) (more : List (String × Text)) :
    (outcome.mapResponse (·.withHeaders more)).settledResponse.status =
      outcome.settledResponse.status := by
  rcases outcome with ⟨_ | _, _, _⟩ <;> rfl

theorem pageResponse_status_ne (bytes : Encoding.Bytes) (request : Request) :
    (pageResponse bytes request).status ≠ 413 := by
  unfold pageResponse
  split
  next =>
    split
    next refusal _ => cases refusal <;> decide
    next => simp
    next => simp
  next => simp [Response.html]

theorem analyzeCode_status_ne (engine : Engine) (code : List Mark)
    (parsed : AnalyzeRequest) :
    (analyzeCode engine code parsed).settledResponse.status ≠ 413 := by
  unfold analyzeCode
  cases engine.ask code parsed with
  | done analysis spellings =>
    simp only [shownAnalysis]
    cases if parsed.includeTokens then tokenCrash? spellings else none <;> simp
  | raised kind message => simp
  | lost => simp

theorem handleAnalyze_status_ne (context : Context) (request : Request) :
    (handleAnalyze context request).settledResponse.status ≠ 413 := by
  unfold handleAnalyze
  split
  next parsed _ =>
    unfold analyzeRequest
    split
    next => simp
    next => simp
    next => exact analyzeCode_status_ne _ _ parsed
  next => simp
  next => simp [invalidRequest]

theorem handle_status_ne (endpoint : Endpoint) (context : Context) (request : Request) :
    (endpoint.handle context request).settledResponse.status ≠ 413 := by
  cases endpoint with
  | analyze => exact handleAnalyze_status_ne context request
  | root =>
    simp only [Endpoint.handle, rootResponse]
    split
    next content _ => exact pageResponse_status_ne content request
    next => simp
  | health | metrics | docs | redoc | schema => simp [Endpoint.handle, Response.html]

theorem route_status_ne (context : Context) (request : Request) :
    (route context request).settledResponse.status ≠ 413 := by
  unfold route
  split
  next =>
    unfold unmatched
    split <;> simp [redirect]
  next endpoint _ =>
    split
    next => exact handle_status_ne endpoint context request
    next => simp [notAllowed]

theorem preflight?_of_hasLimitedBody (limited : hasLimitedBody request.method = true) :
    request.preflight? = none := by
  unfold Request.preflight?
  split
  next options _ _ => simp [options, hasLimitedBody] at limited
  next => rfl

theorem withSizeLimit_status_iff {inner : Handler} (limited : hasLimitedBody request.method = true)
    (other : (inner context request).settledResponse.status ≠ 413) :
    (withSizeLimit inner context request).settledResponse.status = 413 ↔
      request.DeclaresOver context.site.settings.maxRequestSize := by
  simp only [withSizeLimit, limited, if_true, Request.DeclaresOver]
  cases found : declaredLength? request with
  | none => simpa using other
  | some read =>
    cases read with
    | error problem => simp
    | ok length =>
      by_cases exceeds : context.site.settings.maxRequestSize < length
      next => simp [exceeds, tooLarge]
      next => simpa [exceeds] using other

theorem answer_status_iff (limited : hasLimitedBody request.method = true) :
    (answer context request).response.status = 413 ↔
      request.DeclaresOver context.site.settings.maxRequestSize := by
  have settled :=
    (guarded_settled (withCors (withSizeLimit (withSecurityHeaders route))) context request).1
  have inner : (withSecurityHeaders route context request).settledResponse.status ≠ 413 := by
    simpa [withSecurityHeaders] using route_status_ne context request
  rw [← withSizeLimit_status_iff limited inner]
  simp [answer, settled, withCors, preflight?_of_hasLimitedBody limited]

theorem answer_of_declaresOver (limited : hasLimitedBody request.method = true)
    (exceeds : request.DeclaresOver context.site.settings.maxRequestSize) :
    answer context request =
      ⟨(tooLarge context.site.settings.maxRequestSize).withHeaders
        ((CorsPolicy.ofSettings context.site.settings).simpleHeaders (request.header? "origin")),
        [], []⟩ := by
  obtain ⟨length, declared, above⟩ := exceeds
  simp [answer, guarded, withCors, preflight?_of_hasLimitedBody limited, withSizeLimit, limited,
    declared, above, Outcome.plain, Outcome.mapResponse, Except.map, enabledLog]

end

theorem step_of_declaresOver (site : Site) (counts : Telemetry) {visit : Visit}
    (limited : hasLimitedBody visit.request.method = true)
    (exceeds : visit.request.DeclaresOver site.settings.maxRequestSize) :
    step site counts visit =
      (⟨(tooLarge site.settings.maxRequestSize).withHeaders
        ((CorsPolicy.ofSettings site.settings).simpleHeaders (visit.request.header? "origin")),
        [], []⟩, counts) := by
  have answered : answer ⟨site, visit.engine, visit.now, counts⟩ visit.request = _ :=
    answer_of_declaresOver limited exceeds
  rw [step, answered]
  rfl

theorem refusesSize_iff_declaresOver (site : Site) (counts : Telemetry) {visit : Visit}
    (limited : hasLimitedBody visit.request.method = true) :
    RefusesSize site counts visit ↔
      visit.request.DeclaresOver site.settings.maxRequestSize := by
  constructor
  next => exact fun refused => (answer_status_iff limited).mp refused.status
  next =>
    intro exceeds
    have turned (engine : Engine) : step site counts { visit with engine } = _ :=
      step_of_declaresOver site counts limited exceeds
    exact {
      status := by simp [turned visit.engine, tooLarge]
      uncounted := by simp [turned visit.engine]
      unasked := fun engine => (turned engine).trans (turned visit.engine).symm }

theorem isDigit_of_mem_toString {size : Nat} {c : Char} (mem : c ∈ (toString size).toList) :
    isDigit c = true := by
  have inside : c ∈ Nat.toDigits 10 size := by simpa [Nat.toList_repr] using mem
  have digit := Nat.isDigit_of_mem_toDigits (by decide) (by decide) inside
  simpa [Char.isDigit, isDigit, Char.le_def] using digit

theorem ofDigits_toString (size : Nat) :
    ofDigits ((toString size).toList.map fun c => c.toNat - '0'.toNat) = size := by
  have read : Nat.ofDigitChars 10 (Nat.toDigits 10 size) 0 = size :=
    Nat.ofDigitChars_ten_toDigits
  simpa [ofDigits, Nat.toList_repr, Nat.ofDigitChars, List.foldl_map] using read

theorem readLength_toString {size : Nat} (readable : (toString size).toList.length ≤ maxDigits) :
    readLength (toString size).toList = .ok size := by
  have digits : (toString size).toList.all isDigit = true :=
    List.all_eq_true.mpr fun c mem => isDigit_of_mem_toString mem
  rw [readLength_of_digits digits readable, ofDigits_toString]

theorem Request.DeclaresItsSize.declaredLength? {request : Request}
    (honest : request.DeclaresItsSize) :
    declaredLength? request = some (.ok request.body.length) := by
  have digits : (toString request.body.length).toList.all isHeaderDigit = true :=
    all_isHeaderDigit (List.all_eq_true.mpr fun c mem => isDigit_of_mem_toString mem)
  have filled : (toString request.body.length).toList.isEmpty = false := by
    simp [Nat.toList_repr, Nat.toDigits_ne_nil]
  simp only [Service.declaredLength?, honest.declared, digits, filled,
    readLength_toString honest.readable, Bool.not_false, Bool.and_self, if_true]

theorem refusesSize_iff (site : Site) (counts : Telemetry) (visit : Visit)
    (limited : hasLimitedBody visit.request.method = true) :
    (RefusesSize site counts visit ↔
        visit.request.DeclaresOver site.settings.maxRequestSize) ∧
      (visit.request.DeclaresItsSize →
        (RefusesSize site counts visit ↔
          site.settings.maxRequestSize < visit.request.body.length)) := by
  refine ⟨refusesSize_iff_declaresOver site counts limited, fun honest => ?_⟩
  rw [refusesSize_iff_declaresOver site counts limited]
  simp [Request.DeclaresOver, honest.declaredLength?]

def narrowSite : Site := ⟨{ Settings.defaults with maxRequestSize := 16 }, fun _ => .absent⟩

def wideVisit (lengthHeaders : List (String × Text)) : Visit where
  request :=
    { method := "POST"
      path := "/api/analyze".toList
      query := none
      headers := ("content-type", "application/json".toList) :: lengthHeaders
      body := "\x7b\"code\": \"x = 1\"\x7d".toList.map fun c => UInt8.ofNat c.toNat }
  engine := .standard
  now := ""

theorem refusesSize_wideVisit :
    hasLimitedBody "POST" = true ∧
      (wideVisit [("content-length", ['1', '7'])]).request.DeclaresItsSize ∧
      RefusesSize narrowSite .zero (wideVisit [("content-length", ['1', '7'])]) :=
  have honest : (wideVisit [("content-length", ['1', '7'])]).request.DeclaresItsSize :=
    ⟨by decide, by decide⟩
  ⟨by decide, honest,
    ((refusesSize_iff narrowSite .zero _ (by decide)).2 honest).mpr (by decide)⟩

theorem not_refusesSize_of_undeclared :
    ¬ ∀ (site : Site) (counts : Telemetry) (visit : Visit),
      hasLimitedBody visit.request.method = true →
        site.settings.maxRequestSize < visit.request.body.length →
          RefusesSize site counts visit := by
  intro claimed
  have refused := claimed narrowSite .zero (wideVisit []) (by decide) (by decide)
  have answered : (step narrowSite .zero (wideVisit [])).1.response.status = 200 := by
    decide +kernel
  exact absurd (answered.symm.trans refused.status) (by decide)

end SnippetGauge.Service
