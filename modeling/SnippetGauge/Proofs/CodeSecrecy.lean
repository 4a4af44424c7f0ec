import SnippetGauge.Proofs.AnswerLayers
import SnippetGauge.Proofs.TwinRequests

set_option autoImplicit false

namespace SnippetGauge.Service

open Text Encoding

def HidesCode (site : Site) (counts : Telemetry) (first second : Visit) : Prop :=
  (step site counts first).1.response.status ≠ 200 ∨
      (step site counts second).1.response.status ≠ 200 →
    step site counts first = step site counts second

def unwritten? (settings : Settings) (engine : Engine) (request : Request) :
    Option (Language × Crash) :=
  (finished? settings engine request).bind fun (parsed, analysis, spellings) =>
    (if parsed.includeTokens then tokenCrash? spellings else none).map (analysis.language, ·)

/-- What is logged of an exception that comes of what the request holds, and what has been counted
by then. -/
def Visit.disclosed? (visit : Visit) (settings : Settings) : Option (Text × List Event) :=
  let written := (unwritten? settings visit.engine visit.request).map fun (language, crash) =>
    (crash.logged, [Event.accepted, .analyzed language])
  match declaredLength? visit.request with
  | some (.error error) => some (Crash.logged ⟨"ValueError", error.message⟩, [])
  | some (.ok length) => if settings.maxRequestSize < length then none else written
  | none => written

section

variable {settings : Settings} {engine : Engine} {request : Request} {context : Context}

theorem isSome_unwritten? (settings : Settings) (engine : Engine) (request : Request) :
    (unwritten? settings engine request).isSome = request.getsHalves settings engine := by
  simp only [unwritten?, Request.getsHalves]
  cases finished? settings engine request with
  | none => rfl
  | some found =>
    obtain ⟨parsed, analysis, spellings⟩ := found
    simp only [Option.bind_some, Option.isSome_map, Option.any_some, showsHalf]
    cases parsed.includeTokens with
    | false => rfl
    | true => exact isSome_tokenCrash? spellings

theorem handleAnalyze_of_finished? {parsed : AnalyzeRequest} {analysis : Analysis}
    {spellings : List (List Mark)}
    (finished : finished? context.site.settings context.engine request =
      some (parsed, analysis, spellings)) :
    handleAnalyze context request = ⟨shownAnalysis analysis spellings parsed.includeTokens, [],
      [.accepted, .analyzed analysis.language]⟩ := by
  obtain ⟨code, read, holds, filled, done⟩ := finished?_eq_some_iff.mp finished
  cases code with
  | nil => contradiction
  | cons mark rest => simp only [handleAnalyze, read, analyzeRequest, holds, analyzeCode, done]

theorem handleAnalyze_of_unwritten? {language : Language} {crash : Crash}
    (found : unwritten? context.site.settings context.engine request = some (language, crash)) :
    handleAnalyze context request = ⟨.error crash, [], [.accepted, .analyzed language]⟩ := by
  simp only [unwritten?, Option.bind_eq_some_iff, Option.map_eq_some_iff, Prod.mk.injEq] at found
  obtain ⟨⟨parsed, analysis, spellings⟩, finished, other, crashed, rfl, rfl⟩ := found
  rw [handleAnalyze_of_finished? finished]
  simp only [shownAnalysis, crashed]

theorem readable_of_declared
    (declared : ∀ error, declaredLength? request ≠ some (.error error)) :
    request.HasReadableLength := by
  by_contra unreadable
  obtain ⟨error, failed⟩ := exists_lengthError unreadable
  exact declared error failed

theorem answerUnlimited_congr {other : Context} {changed : Request} (site : other.site = context.site)
    (asks : request.asksAnalysis = true) (asksOther : changed.asksAnalysis = true)
    (origin : changed.header? "origin" = request.header? "origin")
    (message : crashMessage changed = crashMessage request)
    (handled : handleAnalyze context request = handleAnalyze other changed) :
    answerUnlimited context request = answerUnlimited other changed := by
  simp only [answerUnlimited_of_asksAnalysis asks, answerUnlimited_of_asksAnalysis asksOther,
    handled, site, origin, message]

theorem status_of_not_getsHalves (asks : request.asksAnalysis = true)
    (done : (finished? context.site.settings context.engine request).isSome = true)
    (whole : request.getsHalves context.site.settings context.engine = false) :
    (answerUnlimited context request).response.status = 200 := by
  obtain ⟨⟨parsed, analysis, spellings⟩, finished⟩ := Option.isSome_iff_exists.mp done
  have unhalved : showsHalf parsed spellings = false := by
    simpa [Request.getsHalves, finished] using whole
  have handled := handleAnalyze_of_finished? finished
  rw [shownAnalysis_of_not_showsHalf analysis unhalved] at handled
  simp [answerUnlimited_of_asksAnalysis asks, handled]

theorem crashMessage_eq_iff {crash other : Crash} :
    crashMessage request crash = crashMessage request other ↔ crash.logged = other.logged := by
  unfold crashMessage
  exact List.append_right_inj _

theorem crashMessage_congr {other : Request} (method : other.method = request.method)
    (path : other.path = request.path) : crashMessage other = crashMessage request := by
  funext crash
  unfold crashMessage
  rw [method, path]

theorem isUnwrittenIn_of_not_getsHalves (whole : request.getsHalves settings engine = false)
    (language : Language) (response : Response) :
    response.isUnwrittenIn settings engine language request = false := by
  simp only [Request.getsHalves] at whole
  simp only [Response.isUnwrittenIn]
  cases found : finished? settings engine request with
  | none => simp
  | some finished =>
    rw [found, Option.any_some] at whole
    simp [whole]

end

section

variable {site : Site} {visit first second : Visit}

theorem disclosed?_of_over (exceeds : visit.request.DeclaresOver site.settings.maxRequestSize) :
    visit.disclosed? site.settings = none := by
  obtain ⟨length, declared, above⟩ := exceeds
  simp only [Visit.disclosed?, declared, above, if_true]

theorem disclosed?_of_fitting (readable : visit.request.HasReadableLength)
    (fits : ¬ visit.request.DeclaresOver site.settings.maxRequestSize) :
    visit.disclosed? site.settings =
      (unwritten? site.settings visit.engine visit.request).map fun (language, crash) =>
        (crash.logged, [.accepted, .analyzed language]) := by
  simp only [Visit.disclosed?]
  cases declared : declaredLength? visit.request with
  | none => rfl
  | some read =>
    cases read with
    | error error => exact absurd declared (declaredLength?_readable readable error)
    | ok length =>
      have within : ¬ site.settings.maxRequestSize < length :=
        fun exceeds => fits ⟨length, declared, exceeds⟩
      simp only [within, if_false]

theorem readable_of_not_disclosed? (hidden : visit.disclosed? site.settings = none) :
    visit.request.HasReadableLength := by
  apply readable_of_declared
  intro error failed
  simp [Visit.disclosed?, failed] at hidden

theorem not_getsHalves_of_not_disclosed? (hidden : visit.disclosed? site.settings = none)
    (fits : ¬ visit.request.DeclaresOver site.settings.maxRequestSize) :
    visit.request.getsHalves site.settings visit.engine = false := by
  rw [disclosed?_of_fitting (readable_of_not_disclosed? hidden) fits,
    Option.map_eq_none_iff] at hidden
  rw [← isSome_unwritten?, hidden, Option.isSome_none]

theorem disclosed?_eq_none (readable : visit.request.HasReadableLength)
    (whole : visit.request.getsHalves site.settings visit.engine = false) :
    visit.disclosed? site.settings = none := by
  by_cases exceeds : visit.request.DeclaresOver site.settings.maxRequestSize
  · exact disclosed?_of_over exceeds
  · rw [← isSome_unwritten?, Option.isSome_eq_false_iff, Option.isNone_iff_eq_none] at whole
    rw [disclosed?_of_fitting readable exceeds, whole, Option.map_none]

def IsDisclosedCount (events : List Event) : Prop :=
  events = [] ∨ ∃ language, events = [.accepted, .analyzed language]

theorem step_of_disclosed? (counts : Telemetry) (asks : visit.request.asksAnalysis = true)
    {logged : Text} {events : List Event}
    (found : visit.disclosed? site.settings = some (logged, events)) :
    IsDisclosedCount events ∧ ∃ crash : Crash, crash.logged = logged ∧
      step site counts visit = (⟨.ofError 500 "Internal server error",
        [⟨.error, crashMessage visit.request crash⟩], events ++ [.failed]⟩,
          counts.recordAll (events ++ [.failed])) := by
  by_cases readable : visit.request.HasReadableLength
  · have fits : ¬ visit.request.DeclaresOver site.settings.maxRequestSize := by
      intro exceeds
      simp [disclosed?_of_over exceeds] at found
    rw [disclosed?_of_fitting readable fits] at found
    obtain ⟨⟨language, crash⟩, unwritten, same⟩ := Option.map_eq_some_iff.mp found
    simp only [Prod.mk.injEq] at same
    obtain ⟨rfl, rfl⟩ := same
    have handled : handleAnalyze ⟨site, visit.engine, visit.now, counts⟩ visit.request = _ :=
      handleAnalyze_of_unwritten? unwritten
    refine ⟨.inr ⟨language, rfl⟩, crash, rfl, ?_⟩
    simp [step_of_fitting site counts readable fits, stepUnlimited,
      answerUnlimited_of_asksAnalysis asks, handled, enabledLog_error]
  · obtain ⟨error, failed⟩ := exists_lengthError readable
    simp only [Visit.disclosed?, failed, Option.some.injEq, Prod.mk.injEq] at found
    obtain ⟨rfl, rfl⟩ := found
    refine ⟨.inl rfl, ⟨"ValueError", error.message⟩, rfl, ?_⟩
    rw [step, answer_of_lengthError (hasLimitedBody_of_asksAnalysis asks) failed]
    rfl

theorem events_of_not_disclosed? (counts : Telemetry)
    (hidden : visit.disclosed? site.settings = none)
    (asks : visit.request.asksAnalysis = true) {events : List Event}
    (counted : IsDisclosedCount events) :
    (step site counts visit).1.events ≠ events ++ [.failed] := by
  intro same
  by_cases exceeds : visit.request.DeclaresOver site.settings.maxRequestSize
  · simp [step_of_declaresOver site counts (hasLimitedBody_of_asksAnalysis asks) exceeds] at same
  · have whole := not_getsHalves_of_not_disclosed? hidden exceeds
    have course := answerUnlimited_course ⟨site, visit.engine, visit.now, counts⟩ visit.request
    rw [step_of_fitting site counts (readable_of_not_disclosed? hidden) exceeds] at same
    simp only [stepUnlimited] at same
    rw [same] at course
    rcases counted with rfl | ⟨language, rfl⟩
    · cases course
    · cases course with
      | unwritten _ _ named =>
        have unwritten := named language
        simp [isUnwrittenIn_of_not_getsHalves whole] at unwritten

theorem Twins.hidesCode_of_not_disclosed? (counts : Telemetry)
    (twins : Twins site.settings first second) (hidden : first.disclosed? site.settings = none)
    (hiddenOther : second.disclosed? site.settings = none) :
    HidesCode site counts first second := by
  intro failed
  have readable := readable_of_not_disclosed? hidden
  have readableOther := readable_of_not_disclosed? hiddenOther
  have origin := twins.headers "origin" (by decide)
  by_cases exceeds : first.request.DeclaresOver site.settings.maxRequestSize
  · have exceedsOther := (twins.declaresOver_iff readable readableOther).mp exceeds
    have limited := hasLimitedBody_of_asksAnalysis twins.asks
    have limitedOther := hasLimitedBody_of_asksAnalysis twins.asksSecond
    rw [step_of_declaresOver site counts limited exceeds,
      step_of_declaresOver site counts limitedOther exceedsOther, origin]
  · have fitsOther := mt (twins.declaresOver_iff readable readableOther).mpr exceeds
    simp only [step_of_fitting site counts readable exceeds,
      step_of_fitting site counts readableOther fitsOther, stepUnlimited] at failed ⊢
    rcases twins.handled counts with alike | ⟨done, doneOther⟩
    · have message := crashMessage_congr twins.method twins.path
      have answered := answerUnlimited_congr (by rfl) twins.asks twins.asksSecond origin message alike
      rw [answered]
    · have status : (answerUnlimited ⟨site, first.engine, first.now, counts⟩
          first.request).response.status = 200 :=
        status_of_not_getsHalves twins.asks done (not_getsHalves_of_not_disclosed? hidden exceeds)
      have statusOther : (answerUnlimited ⟨site, second.engine, second.now, counts⟩
          second.request).response.status = 200 :=
        status_of_not_getsHalves twins.asksSecond doneOther
          (not_getsHalves_of_not_disclosed? hiddenOther fitsOther)
      rcases failed with failed | failed
      · exact absurd status failed
      · exact absurd statusOther failed

theorem Twins.hidesCode_of_disclosed?_eq (counts : Telemetry)
    (twins : Twins site.settings first second)
    (same : first.disclosed? site.settings = second.disclosed? site.settings) :
    HidesCode site counts first second := by
  cases found : first.disclosed? site.settings with
  | none => exact twins.hidesCode_of_not_disclosed? counts found (same.symm.trans found)
  | some disclosed =>
    intro _
    obtain ⟨-, crash, logged, answered⟩ := step_of_disclosed? counts twins.asks found
    obtain ⟨-, crashOther, loggedOther, answeredOther⟩ :=
      step_of_disclosed? counts twins.asksSecond (same.symm.trans found)
    have message := crashMessage_congr twins.method twins.path
    have messages : crashMessage first.request crash = crashMessage first.request crashOther :=
      crashMessage_eq_iff.mpr (logged.trans loggedOther.symm)
    rw [answered, answeredOther, message, messages]

theorem Twins.disclosed?_eq_of_hidesCode {counts : Telemetry}
    (twins : Twins site.settings first second) (hides : HidesCode site counts first second) :
    first.disclosed? site.settings = second.disclosed? site.settings := by
  cases found : first.disclosed? site.settings with
  | none =>
    cases foundOther : second.disclosed? site.settings with
    | none => rfl
    | some other =>
      obtain ⟨counted, crash, -, answered⟩ := step_of_disclosed? counts twins.asksSecond foundOther
      have same := hides (.inr (by simp [answered]))
      refine absurd ?_ (events_of_not_disclosed? counts found twins.asks counted)
      rw [same, answered]
  | some disclosed =>
    obtain ⟨counted, crash, logged, answered⟩ := step_of_disclosed? counts twins.asks found
    have same := hides (.inl (by simp [answered]))
    cases foundOther : second.disclosed? site.settings with
    | none =>
      refine absurd ?_ (events_of_not_disclosed? counts foundOther twins.asksSecond counted)
      rw [← same, answered]
    | some other =>
      obtain ⟨-, crashOther, loggedOther, answeredOther⟩ :=
        step_of_disclosed? counts twins.asksSecond foundOther
      rw [answered, answeredOther, crashMessage_congr twins.method twins.path] at same
      simp only [Prod.mk.injEq, Reply.mk.injEq, List.cons.injEq, LogRecord.mk.injEq, true_and,
        and_true, List.append_cancel_right_eq, crashMessage_eq_iff] at same
      obtain ⟨⟨texts, events⟩, -⟩ := same
      rw [logged, loggedOther] at texts
      exact congrArg some (Prod.ext texts events)

/-- Different code cannot be told apart by a refusal, unless what is logged of an exception quotes
it, or the language of the code that could not be written is counted. -/
theorem hidesCode_iff (counts : Telemetry) (twins : Twins site.settings first second) :
    (HidesCode site counts first second ↔
      first.disclosed? site.settings = second.disclosed? site.settings) ∧
    (first.request.HasReadableLength → second.request.HasReadableLength →
      first.request.getsHalves site.settings first.engine = false →
      second.request.getsHalves site.settings second.engine = false →
      HidesCode site counts first second) := by
  refine ⟨⟨twins.disclosed?_eq_of_hidesCode, twins.hidesCode_of_disclosed?_eq counts⟩, ?_⟩
  intro readable readableOther whole wholeOther
  exact twins.hidesCode_of_not_disclosed? counts (disclosed?_eq_none readable whole)
    (disclosed?_eq_none readableOther wholeOther)

end

def longHinted (code : Text) : Visit :=
  postedVisit (utf8 (Json.write .spaced 0
    (.obj (submission code ((some (List.replicate 51 ' ')).map .text) none))))

theorem hidesCode_iff_longHinted :
    (step emptySite .zero (longHinted ['x'])).1.response.status = 422 ∧
      step emptySite .zero (longHinted ['x']) = step emptySite .zero (longHinted ['y', 'y']) := by
  have twins : Twins emptySite.settings (longHinted ['x']) (longHinted ['y', 'y']) :=
    postedVisit_twins (submission_differInCode Json.Layout.isPlain_spaced _ _ (by simp) (by decide))
  have status : (step emptySite .zero (longHinted ['x'])).1.response.status = 422 := by
    decide +kernel
  have hides : HidesCode emptySite .zero (longHinted ['x']) (longHinted ['y', 'y']) :=
    (hidesCode_iff .zero twins).2 (postedRequest_readable _) (postedRequest_readable _)
      (by decide +kernel) (by decide +kernel)
  exact ⟨status, hides (.inl (by rw [status]; decide))⟩

def tokensOf (code : List Mark) : Members :=
  [("code", .ofMarks code), ("includeTokens", .bool true)]

def tokensBody (code : List Mark) : Bytes := utf8 (Json.write .compact 0 (.obj (tokensOf code)))

theorem readJson_tokensBody {code : List Mark} (unpaired : Json.Unpaired code) :
    readJson (tokensBody code) = .ok (.obj (tokensOf code)) := by
  have each : ∀ member ∈ tokensOf code, Json.Readable 959 member.2 := by
    simp [tokensOf, Json.readable_ofMarks unpaired, Json.Readable.bool]
  exact readJson_write Json.Layout.isPlain_compact (.obj each)

example : tokensBody [.half 0xD800 rfl] =
    utf8 "\x7b\"code\":\"\\ud800\",\"includeTokens\":true\x7d".toList := by decide

theorem tokensBody_differInCode {maxLength : Int} {code changed : List Mark}
    (unpaired : Json.Unpaired code) (unpairedOther : Json.Unpaired changed)
    (filled : code = [] ↔ changed = [])
    (within : code.length ≤ maxLength ↔ changed.length ≤ maxLength) :
    DifferInCode maxLength (tokensBody code) (tokensBody changed) :=
  .objects _ _ code changed (readJson_tokensBody unpaired) (readJson_tokensBody unpairedOther)
    rfl rfl (fun key other => by simp only [tokensOf, Json.member?_cons_of_ne other]) filled within

theorem not_hidesCode :
    ¬ ∀ site counts first second, Twins site.settings first second →
      HidesCode site counts first second := by
  intro claimed
  have bodies : DifferInCode emptySite.settings.maxCodeLength
      (tokensBody [.half 0xD800 rfl]) (tokensBody [.half 0xD801 rfl]) :=
    tokensBody_differInCode (.singleton _) (.singleton _) (by simp) (by decide)
  have hides := claimed emptySite .zero _ _ (postedVisit_twins bodies) (.inl (by decide +kernel))
  exact absurd (congrArg (·.1.log) hides) (by decide +kernel)

end SnippetGauge.Service
