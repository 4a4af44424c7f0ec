import SnippetGauge.Proofs.SizeRefusal
import SnippetGauge.Proofs.TelemetryTally

set_option autoImplicit false

namespace SnippetGauge.Service

open Text

def answerUnlimited (context : Context) (request : Request) : Reply :=
  let reply := guarded (withCors (withSecurityHeaders route)) context request
  { reply with log := enabledLog context.site.settings reply.log }

def stepUnlimited (site : Site) (counts : Telemetry) (visit : Visit) : Reply × Telemetry :=
  let reply := answerUnlimited ⟨site, visit.engine, visit.now, counts⟩ visit.request
  (reply, counts.recordAll reply.events)

def JudgesLength (site : Site) (counts : Telemetry) (visit : Visit) : Prop :=
  RefusesSize site counts visit ∨ step site counts visit = stepUnlimited site counts visit

/-- The tokens that the request asks for hold half of a surrogate pair. -/
def Request.getsHalves (request : Request) (settings : Settings) (engine : Engine) : Bool :=
  (finished? settings engine request).any fun (parsed, _, spellings) => showsHalf parsed spellings

section

variable {context : Context} {request : Request}

theorem exists_lengthError (unreadable : ¬ request.HasReadableLength) :
    ∃ error, declaredLength? request = some (.error error) := by
  simp only [Request.HasReadableLength, not_forall, not_or] at unreadable
  obtain ⟨value, found, headerDigits, unread⟩ := unreadable
  have filled : value.isEmpty = false := by
    cases value with
    | nil => simp at unread
    | cons => rfl
  have failed : ∃ error, readLength value = .error error := by
    by_cases leading : (value.takeWhile isDigit).length > maxDigits
    next => exact ⟨_, by simp only [readLength, leading, if_true]; rfl⟩
    next =>
      by_cases digits : value.all isDigit = true
      next =>
        have whole : value.takeWhile isDigit = value :=
          List.takeWhile_eq_self_iff.mpr (List.all_eq_true.mp digits)
        rw [whole] at leading
        exact absurd ⟨digits, by omega⟩ unread
      next => exact ⟨_, by simp only [readLength, leading, digits, if_false]; rfl⟩
  obtain ⟨error, failed⟩ := failed
  simp only [Bool.not_eq_false] at headerDigits
  exact ⟨error, by simp [declaredLength?, found, filled, headerDigits, failed]⟩

theorem enabledLog_error (settings : Settings) (message : Text) :
    enabledLog settings [⟨.error, message⟩] = [⟨.error, message⟩] := by
  cases level : settings.logLevel <;> simp [enabledLog, level, LogLevel.rank]

theorem answer_of_lengthError (limited : hasLimitedBody request.method = true) {error : LengthError}
    (failed : declaredLength? request = some (.error error)) :
    answer context request = ⟨.ofError 500 "Internal server error",
      [⟨.error, crashMessage request ⟨"ValueError", error.message⟩⟩], [.failed]⟩ := by
  simp [answer, guarded, withCors, preflight?_of_hasLimitedBody limited, withSizeLimit, limited,
    failed, Outcome.mapResponse, Except.map, enabledLog_error]

theorem answer_of_fitting (readable : request.HasReadableLength)
    (fits : ¬ request.DeclaresOver context.site.settings.maxRequestSize) :
    answer context request = answerUnlimited context request := by
  have passed (inner : Handler) : withSizeLimit inner context request = inner context request := by
    simp only [withSizeLimit]
    split
    next error failed =>
      split at failed
      next => exact absurd failed (declaredLength?_readable readable error)
      next => simp at failed
    next length found =>
      split at found
      next =>
        have within : ¬ context.site.settings.maxRequestSize < length :=
          fun exceeds => fits ⟨length, found, exceeds⟩
        simp [within]
      next => simp at found
    next => rfl
  simp [answer, answerUnlimited, guarded, withCors, passed]

theorem answerUnlimited_course (context : Context) (request : Request) :
    Course context.site.settings context.engine request (answerUnlimited context request).response
      (answerUnlimited context request).events := by
  have takes := withCors_takes context <|
    withSecurityHeaders_takes context (route_takes context request)
  have same := guarded_settled (withCors (withSecurityHeaders route)) context request
  simp only [answerUnlimited, same.1, same.2]
  exact takes

theorem route_of_asksAnalysis (asks : request.asksAnalysis = true) :
    route context request = handleAnalyze context request := by
  simp only [Request.asksAnalysis, Bool.and_eq_true, beq_iff_eq] at asks
  simp [route, endpoint?_of_mem_analyzePaths context.site.settings asks.2, asks.1,
    Endpoint.methods, Endpoint.handle]

theorem ask_standard {parsed : AnalyzeRequest} (hinted : parsed.languageHint = .ok parsed.hint)
    (code : List Mark) :
    ∃ analysis spellings, Engine.standard.ask code parsed = .done analysis spellings := by
  simp only [Engine.ask, hinted]
  exact ⟨_, _, rfl⟩

theorem handleAnalyze_status_iff (standard : context.engine = .standard) :
    (handleAnalyze context request).settledResponse.status = 500 ↔
      request.getsHalves context.site.settings context.engine = true := by
  simp only [handleAnalyze, Request.getsHalves, finished?]
  cases read : readAnalyzeRequest context.site.settings.maxCodeLength request with
  | error problem => cases problem <;> simp [invalidRequest]
  | ok parsed =>
    simp only [analyzeRequest]
    cases parsed.code with
    | none => simp
    | some code =>
      cases code with
      | nil => simp
      | cons mark rest =>
        obtain ⟨analysis, spellings, asked⟩ := ask_standard (languageHint_of_read read) (mark :: rest)
        simp only [analyzeCode, standard, asked, Option.any_some]
        cases half : showsHalf parsed spellings with
        | false => simp [shownAnalysis_of_not_showsHalf analysis half]
        | true =>
          obtain ⟨crash, shown⟩ := shownAnalysis_of_showsHalf analysis half
          simp [shown]

theorem hasLimitedBody_of_asksAnalysis (asks : request.asksAnalysis = true) :
    hasLimitedBody request.method = true := by
  simp only [Request.asksAnalysis, Bool.and_eq_true, beq_iff_eq] at asks
  simp [hasLimitedBody, asks.1]

theorem answerUnlimited_of_asksAnalysis (asks : request.asksAnalysis = true) :
    answerUnlimited context request =
      let outcome := handleAnalyze context request
      match outcome.result with
      | .ok response =>
        ⟨(response.withHeaders securityHeaders).withHeaders
          ((CorsPolicy.ofSettings context.site.settings).simpleHeaders (request.header? "origin")),
          enabledLog context.site.settings outcome.log, outcome.events⟩
      | .error crash =>
        ⟨.ofError 500 "Internal server error", enabledLog context.site.settings
          (outcome.log ++ [⟨.error, crashMessage request crash⟩]), outcome.events ++ [.failed]⟩ := by
  have simple := preflight?_of_hasLimitedBody (hasLimitedBody_of_asksAnalysis asks)
  simp only [answerUnlimited, guarded, withCors, simple, withSecurityHeaders,
    route_of_asksAnalysis asks, Outcome.mapResponse]
  cases (handleAnalyze context request).result <;> rfl

theorem answerUnlimited_status_iff (asks : request.asksAnalysis = true)
    (standard : context.engine = .standard) :
    (answerUnlimited context request).response.status = 500 ↔
      request.getsHalves context.site.settings context.engine = true := by
  rw [← handleAnalyze_status_iff standard, answerUnlimited_of_asksAnalysis asks]
  generalize handleAnalyze context request = outcome
  obtain ⟨_ | _, _, _⟩ := outcome <;> simp

end

section

variable {visit : Visit}

theorem step_of_unreadable (site : Site) (counts : Telemetry)
    (limited : hasLimitedBody visit.request.method = true)
    (unreadable : ¬ visit.request.HasReadableLength) :
    ∃ log, step site counts visit =
      (⟨.ofError 500 "Internal server error", log, [.failed]⟩, counts.record .failed) := by
  obtain ⟨error, failed⟩ := exists_lengthError unreadable
  have crashed : answer ⟨site, visit.engine, visit.now, counts⟩ visit.request = _ :=
    answer_of_lengthError limited failed
  exact ⟨_, by rw [step, crashed]; rfl⟩

theorem step_of_fitting (site : Site) (counts : Telemetry)
    (readable : visit.request.HasReadableLength)
    (fits : ¬ visit.request.DeclaresOver site.settings.maxRequestSize) :
    step site counts visit = stepUnlimited site counts visit := by
  have same : answer ⟨site, visit.engine, visit.now, counts⟩ visit.request = _ :=
    answer_of_fitting readable fits
  rw [step, same, stepUnlimited]

theorem judgesLength_iff_readable (site : Site) (counts : Telemetry)
    (limited : hasLimitedBody visit.request.method = true) :
    JudgesLength site counts visit ↔ visit.request.HasReadableLength := by
  constructor
  next =>
    intro judged
    by_contra unreadable
    obtain ⟨log, crashed⟩ := step_of_unreadable site counts limited unreadable
    rcases judged with refused | passed
    next =>
      have status := refused.status
      simp [crashed] at status
    next =>
      -- Whatever the routes answer, they do not count a failure alone.
      have course := answerUnlimited_course ⟨site, visit.engine, visit.now, counts⟩ visit.request
      have events := congrArg (·.1.events) passed
      simp only [crashed, stepUnlimited] at events
      rw [← events] at course
      cases course
  next =>
    intro readable
    by_cases exceeds : visit.request.DeclaresOver site.settings.maxRequestSize
    next => exact .inl ((refusesSize_iff_declaresOver site counts limited).mpr exceeds)
    next => exact .inr (step_of_fitting site counts readable exceeds)

theorem step_status_iff (site : Site) (counts : Telemetry)
    (asks : visit.request.asksAnalysis = true) (standard : visit.engine = .standard) :
    (step site counts visit).1.response.status = 500 ↔
      ¬ visit.request.HasReadableLength ∨
        ¬ visit.request.DeclaresOver site.settings.maxRequestSize ∧
          visit.request.getsHalves site.settings visit.engine = true := by
  have limited := hasLimitedBody_of_asksAnalysis asks
  by_cases readable : visit.request.HasReadableLength
  next =>
    by_cases exceeds : visit.request.DeclaresOver site.settings.maxRequestSize
    next =>
      have refused := (refusesSize_iff_declaresOver site counts limited).mpr exceeds
      simp [refused.status, readable, exceeds]
    next =>
      simp only [step_of_fitting site counts readable exceeds, stepUnlimited, readable, exceeds]
      simpa using answerUnlimited_status_iff asks standard
  next =>
    obtain ⟨log, crashed⟩ := step_of_unreadable site counts limited readable
    simp [crashed, readable]

theorem step_requestsFailed (site : Site) (counts : Telemetry)
    (limited : hasLimitedBody visit.request.method = true) :
    (step site counts visit).2.requestsFailed =
      counts.requestsFailed + (step site counts visit).1.response.isFailure.toNat := by
  by_cases readable : visit.request.HasReadableLength
  next => exact (step_counts site counts readable).2.1
  next =>
    obtain ⟨log, crashed⟩ := step_of_unreadable site counts limited readable
    simp [crashed, Response.isFailure, Telemetry.record]

end

/-- A declared length is judged unless it is made of digits that do not read as a number: those of
other forms, or too many. Then the request fails before the routes see it. -/
theorem judgesLength_iff (site : Site) (counts : Telemetry) (visit : Visit)
    (asks : visit.request.asksAnalysis = true) (standard : visit.engine = .standard) :
    let reply := (step site counts visit).1
    let next := (step site counts visit).2
    (JudgesLength site counts visit ↔ visit.request.HasReadableLength) ∧
      (reply.response.status = 500 ↔
        ¬ visit.request.HasReadableLength ∨
          ¬ visit.request.DeclaresOver site.settings.maxRequestSize ∧
            visit.request.getsHalves site.settings visit.engine = true) ∧
      next.requestsFailed = counts.requestsFailed + reply.response.isFailure.toNat :=
  have limited := hasLimitedBody_of_asksAnalysis asks
  ⟨judgesLength_iff_readable site counts limited, step_status_iff site counts asks standard,
    step_requestsFailed site counts limited⟩

def raisedVisit : Visit := wideVisit [("content-length", ['²'])]

theorem raisedVisit_unreadable : ¬ raisedVisit.request.HasReadableLength := by
  intro readable
  have declared : raisedVisit.request.header? "content-length" = some ['²'] := rfl
  rcases readable _ declared with other | ⟨digits, short⟩
  next => exact absurd other (by decide)
  next => exact absurd digits (by decide)

theorem judgesLength_raisedVisit :
    raisedVisit.request.asksAnalysis = true ∧ raisedVisit.engine = .standard ∧
      (step emptySite .zero raisedVisit).1.response.status = 500 :=
  have asks : raisedVisit.request.asksAnalysis = true := by decide
  ⟨asks, rfl,
    (judgesLength_iff emptySite .zero raisedVisit asks rfl).2.1.mpr (.inl raisedVisit_unreadable)⟩

theorem not_judgesLength_of_superscript :
    ¬ ∀ (site : Site) (counts : Telemetry) (visit : Visit), visit.request.asksAnalysis = true →
      visit.engine = .standard → JudgesLength site counts visit := by
  intro claimed
  have judged := claimed emptySite .zero raisedVisit (by decide) rfl
  exact raisedVisit_unreadable ((judgesLength_iff_readable emptySite .zero (by decide)).mp judged)

end SnippetGauge.Service
