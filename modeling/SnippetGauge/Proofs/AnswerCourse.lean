import Mathlib.Data.List.TakeWhile
import SnippetGauge.Service.App

set_option autoImplicit false

namespace SnippetGauge.Service

open Text

def analyzePaths : List String := ["/api/analyze", "/api/v1/analyze", "/analyze"]

def Request.asksAnalysis (request : Request) : Bool :=
  request.method == "POST" && analyzePaths.any (·.toList == request.path)

def Request.HasReadableLength (request : Request) : Prop :=
  ∀ value, request.header? "content-length" = some value →
    value.all isHeaderDigit = false ∨ value.all isDigit = true ∧ value.length ≤ maxDigits

namespace Response

def hasField (response : Response) (key text : String) : Bool :=
  match response.content with
  | .json (.obj members) =>
    match Json.member? members key with
    | some (.str found) => found == text
    | _ => false
  | _ => false

def isFailure (response : Response) : Bool := response.status == 500

def isEmptyRejection (response : Response) : Bool :=
  response.status == 400 && response.hasField "error" "No code provided"

def isAnalysisOf (request : Request) (response : Response) : Bool :=
  request.asksAnalysis && response.status == 200

def isAnalysisIn (language : Language) (request : Request) (response : Response) : Bool :=
  response.isAnalysisOf request && response.hasField "language" language.name

end Response

def finished? (settings : Settings) (engine : Engine) (request : Request) :
    Option (AnalyzeRequest × Analysis × List (List Mark)) :=
  match readAnalyzeRequest settings.maxCodeLength request with
  | .error _ => none
  | .ok parsed =>
    match parsed.code with
    | none | some [] => none
    | some code =>
      match engine.ask code parsed with
      | .done analysis spellings => some (parsed, analysis, spellings)
      | _ => none

def showsHalf (parsed : AnalyzeRequest) (spellings : List (List Mark)) : Bool :=
  parsed.includeTokens && spellings.any fun token => token.any (!·.isChar)

/-- The answer is a failure although the engine has finished, since the tokens cannot be written. -/
def Response.isUnwrittenIn (settings : Settings) (engine : Engine) (language : Language)
    (request : Request) (response : Response) : Bool :=
  response.isFailure && request.asksAnalysis &&
    (finished? settings engine request).any fun (parsed, analysis, spellings) =>
      analysis.language == language && showsHalf parsed spellings

inductive Course (settings : Settings) (engine : Engine) (request : Request)
    (response : Response) : List Event → Prop where
  | quiet (works : response.isFailure = false) (filled : response.isEmptyRejection = false)
      (plain : response.isAnalysisOf request = false) : Course settings engine request response []
  | emptied (works : response.isFailure = false) (empty : response.isEmptyRejection = true)
      (plain : response.isAnalysisOf request = false) :
      Course settings engine request response [.rejectedEmpty]
  | analyzed (language : Language) (works : response.isFailure = false)
      (filled : response.isEmptyRejection = false)
      (analysis : response.isAnalysisOf request = true)
      (named : ∀ other, response.isAnalysisIn other request = (language == other)) :
      Course settings engine request response [.accepted, .analyzed language]
  | failed (fails : response.isFailure = true)
      (lost : ∀ other, response.isUnwrittenIn settings engine other request = false) :
      Course settings engine request response [.accepted, .failed]
  | unwritten (language : Language) (fails : response.isFailure = true)
      (named : ∀ other,
        response.isUnwrittenIn settings engine other request = (language == other)) :
      Course settings engine request response [.accepted, .analyzed language, .failed]

namespace Outcome

def settledResponse (outcome : Outcome) : Response :=
  match outcome.result with
  | .ok response => response
  | .error _ => .ofError 500 "Internal server error"

def settledEvents (outcome : Outcome) : List Event :=
  match outcome.result with
  | .ok _ => outcome.events
  | .error _ => outcome.events ++ [.failed]

def Takes (outcome : Outcome) (settings : Settings) (engine : Engine) (request : Request) : Prop :=
  Course settings engine request outcome.settledResponse outcome.settledEvents

end Outcome

theorem guarded_settled (inner : Handler) (context : Context) (request : Request) :
    (guarded inner context request).response = (inner context request).settledResponse ∧
      (guarded inner context request).events = (inner context request).settledEvents := by
  unfold guarded Outcome.settledResponse Outcome.settledEvents
  cases found : (inner context request).result with
  | ok response => simp [found]
  | error crash => simp [found]

variable {settings : Settings} {engine : Engine} {request : Request}

theorem Course.withHeaders {response : Response} {events : List Event}
    (course : Course settings engine request response events) (more : List (String × Text)) :
    Course settings engine request (response.withHeaders more) events := by
  cases course with
  | quiet works filled plain => exact .quiet works filled plain
  | emptied works empty plain => exact .emptied works empty plain
  | analyzed language works filled analysis named =>
    exact .analyzed language works filled analysis named
  | failed fails lost => exact .failed fails lost
  | unwritten language fails named => exact .unwritten language fails named

theorem Outcome.Takes.withHeaders {outcome : Outcome}
    (takes : outcome.Takes settings engine request) (more : List (String × Text)) :
    (outcome.mapResponse (·.withHeaders more)).Takes settings engine request := by
  obtain ⟨result, log, events⟩ := outcome
  cases result with
  | ok response => exact Course.withHeaders takes more
  | error crash => exact takes

theorem endpoint?_of_mem_analyzePaths (settings : Settings) {path : Text}
    (inside : analyzePaths.any (·.toList == path) = true) :
    endpoint? settings path = some .analyze := by
  simp only [analyzePaths, List.any_cons, List.any_nil, Bool.or_false, Bool.or_eq_true,
    beq_iff_eq] at inside
  unfold endpoint? routes
  rcases inside with rfl | rfl | rfl <;> cases settings.debug <;> decide

theorem exists_route_of_endpoint? {path : Text} {endpoint : Endpoint}
    (found : endpoint? settings path = some endpoint) :
    ∃ name, (name, endpoint) ∈ routes settings ∧ name.toList = path := by
  obtain ⟨⟨name, other⟩, search, same⟩ := Option.map_eq_some_iff.mp found
  simp only at same
  subst same
  exact ⟨name, List.mem_of_find?_eq_some search, by simpa using List.find?_some search⟩

theorem mem_analyzePaths_of_endpoint? {path : Text}
    (found : endpoint? settings path = some .analyze) :
    analyzePaths.any (·.toList == path) = true := by
  obtain ⟨name, listed, spelled⟩ := exists_route_of_endpoint? found
  rw [List.any_eq_true]
  refine ⟨name, ?_, by simp [spelled]⟩
  unfold routes at listed
  cases settings.debug <;> simpa [analyzePaths] using listed

theorem asksAnalysis_of_endpoint? (found : endpoint? settings request.path = some .analyze)
    (posted : request.method = "POST") : request.asksAnalysis = true := by
  simp [Request.asksAnalysis, posted, mem_analyzePaths_of_endpoint? found]

theorem not_asksAnalysis_of_endpoint? {endpoint : Option Endpoint}
    (found : endpoint? settings request.path = endpoint) (other : endpoint ≠ some .analyze) :
    request.asksAnalysis = false := by
  cases asks : request.asksAnalysis with
  | false => rfl
  | true =>
    rw [Request.asksAnalysis, Bool.and_eq_true] at asks
    exact absurd (found.symm.trans (endpoint?_of_mem_analyzePaths settings asks.2)) other

theorem isSome_firstHalves? (marks : List Mark) :
    (Mark.firstHalves? marks).isSome = marks.any (!·.isChar) := by
  induction marks with
  | nil => rfl
  | cons mark rest ih =>
    cases mark with
    | char c => simpa [Mark.firstHalves?, Mark.isChar, Mark.char?] using ih
    | half unit => simp [Mark.firstHalves?, Mark.isChar, Mark.char?]

variable {parsed : AnalyzeRequest} {analysis : Analysis} {spellings : List (List Mark)}

theorem isSome_tokenCrash? (spellings : List (List Mark)) :
    (tokenCrash? spellings).isSome = spellings.any fun token => token.any (!·.isChar) := by
  simp [tokenCrash?, List.isSome_findSome?, isSome_firstHalves?]

theorem shownAnalysis_of_not_showsHalf (analysis : Analysis)
    (whole : showsHalf parsed spellings = false) :
    shownAnalysis analysis spellings parsed.includeTokens =
      .ok (.ofJson 200 (analysisJson analysis parsed.includeTokens)) := by
  have crash := isSome_tokenCrash? spellings
  unfold shownAnalysis
  cases shown : parsed.includeTokens with
  | false => rfl
  | true =>
    rw [showsHalf, shown, Bool.true_and] at whole
    rw [whole, Option.isSome_eq_false_iff, Option.isNone_iff_eq_none] at crash
    simp [crash]

theorem shownAnalysis_of_showsHalf (analysis : Analysis)
    (half : showsHalf parsed spellings = true) :
    ∃ crash, shownAnalysis analysis spellings parsed.includeTokens = .error crash := by
  rw [showsHalf, Bool.and_eq_true, ← isSome_tokenCrash?] at half
  obtain ⟨crash, found⟩ := Option.isSome_iff_exists.mp half.2
  exact ⟨crash, by simp [shownAnalysis, half.1, found]⟩

theorem hasField_language_analysisJson (analysis : Analysis) (withTokens : Bool) (text : String) :
    (Response.ofJson 200 (analysisJson analysis withTokens)).hasField "language" text =
      (analysis.language.name == text) := by
  cases withTokens <;> simp [Response.hasField, Response.ofJson, analysisJson, Json.member?]

theorem name_beq_name (language other : Language) :
    (language.name == other.name) = (language == other) := by
  cases language <;> cases other <;> decide

theorem analyzeCode_takes {code : List Mark}
    (asks : request.asksAnalysis = true)
    (read : readAnalyzeRequest settings.maxCodeLength request = .ok parsed)
    (holds : parsed.code = some code) (some : code ≠ []) :
    (analyzeCode engine code parsed).Takes settings engine request := by
  have finish : finished? settings engine request =
      match engine.ask code parsed with
      | .done analysis spellings => Option.some (parsed, analysis, spellings)
      | _ => none := by
    obtain ⟨mark, rest, rfl⟩ := List.exists_cons_of_ne_nil some
    simp [finished?, read, holds]
  unfold analyzeCode
  cases result : engine.ask code parsed with
  | done analysis spellings =>
    cases half : showsHalf parsed spellings with
    | false =>
      simp only [shownAnalysis_of_not_showsHalf analysis half]
      refine .analyzed analysis.language rfl rfl ?_ ?_
      · simp [Response.isAnalysisOf, asks, Outcome.settledResponse, Response.ofJson]
      · intro other
        change (request.asksAnalysis && true && (Response.ofJson 200 _).hasField "language" _) = _
        rw [hasField_language_analysisJson, name_beq_name, asks]
        rfl
    | true =>
      obtain ⟨crash, shown⟩ := shownAnalysis_of_showsHalf analysis half
      simp only [shown]
      refine .unwritten analysis.language rfl ?_
      intro other
      simp [Response.isUnwrittenIn, asks, finish, result, half, Outcome.settledResponse,
        Response.isFailure, Response.ofError, Response.ofJson]
  | raised kind message =>
    refine .failed rfl ?_
    intro other
    simp [Response.isUnwrittenIn, finish, result]
  | lost =>
    refine .failed rfl ?_
    intro other
    simp [Response.isUnwrittenIn, finish, result]

theorem analyzeRequest_takes (asks : request.asksAnalysis = true)
    (read : readAnalyzeRequest settings.maxCodeLength request = .ok parsed) :
    (analyzeRequest engine parsed).Takes settings engine request := by
  have emptied : Outcome.Takes ⟨.ok (.ofError 400 "No code provided"), [], [.rejectedEmpty]⟩
      settings engine request :=
    .emptied rfl (by decide) (by simp [Response.isAnalysisOf, Outcome.settledResponse,
      Response.ofError, Response.ofJson])
  unfold analyzeRequest
  cases holds : parsed.code with
  | none => exact emptied
  | some code =>
    cases code with
    | nil => exact emptied
    | cons mark rest => exact analyzeCode_takes asks read holds (by simp)

theorem Outcome.Takes.ofPlain {response : Response} (log : List LogRecord)
    (works : response.isFailure = false) (filled : response.isEmptyRejection = false)
    (plain : response.isAnalysisOf request = false) :
    Outcome.Takes ⟨.ok response, log, []⟩ settings engine request :=
  .quiet works filled plain

theorem handleAnalyze_takes (context : Context) (asks : request.asksAnalysis = true) :
    (handleAnalyze context request).Takes context.site.settings context.engine request := by
  unfold handleAnalyze
  cases read : readAnalyzeRequest context.site.settings.maxCodeLength request with
  | ok parsed => exact analyzeRequest_takes asks read
  | error problem =>
    cases problem with
    | unreadable =>
      exact .ofPlain [] rfl (by decide)
        (by simp [Response.isAnalysisOf, Response.ofError, Response.ofJson])
    | invalid found =>
      exact .ofPlain _ rfl (by decide)
        (by simp [Response.isAnalysisOf, Response.ofError, Response.ofJson])

theorem isEmptyRejection_eq_false {response : Response}
    (other : ∀ key text, response.hasField key text = false) : response.isEmptyRejection = false := by
  simp [Response.isEmptyRejection, other]

theorem isAnalysisOf_eq_false (response : Response) (asks : request.asksAnalysis = false) :
    response.isAnalysisOf request = false := by
  simp [Response.isAnalysisOf, asks]

theorem pageResponse_quiet (bytes : Encoding.Bytes) (request : Request) :
    (pageResponse bytes request).isFailure = false ∧
      ∀ key text, (pageResponse bytes request).hasField key text = false := by
  unfold pageResponse
  split
  next wanted _ _ =>
    split
    next refusal _ => cases refusal <;> exact ⟨rfl, fun _ _ => rfl⟩
    next => exact ⟨rfl, fun _ _ => rfl⟩
    next => exact ⟨rfl, fun _ _ => rfl⟩
  next => exact ⟨rfl, fun _ _ => rfl⟩

theorem rootResponse_quiet (site : Site) (request : Request) :
    (rootResponse site request).isFailure = false ∧
      (rootResponse site request).isEmptyRejection = false := by
  unfold rootResponse
  split
  next content _ =>
    have quiet := pageResponse_quiet content request
    exact ⟨quiet.1, isEmptyRejection_eq_false quiet.2⟩
  next => exact ⟨rfl, rfl⟩

theorem handle_takes {endpoint : Endpoint} (context : Context) (other : endpoint ≠ .analyze)
    (asks : request.asksAnalysis = false) :
    (endpoint.handle context request).Takes settings engine request := by
  have plain (response : Response) : response.isAnalysisOf request = false :=
    isAnalysisOf_eq_false response asks
  cases endpoint with
  | analyze => exact absurd rfl other
  | root =>
    have quiet := rootResponse_quiet context.site request
    exact .ofPlain [] quiet.1 quiet.2 (plain _)
  | health => exact .ofPlain [] rfl rfl (plain _)
  | metrics => exact .ofPlain [] rfl rfl (plain _)
  | docs => exact .ofPlain [] rfl rfl (plain _)
  | redoc => exact .ofPlain [] rfl rfl (plain _)
  | schema => exact .ofPlain [] rfl rfl (plain _)

theorem unmatched_takes (asks : request.asksAnalysis = false) :
    (Outcome.plain (unmatched settings request)).Takes settings engine request := by
  unfold unmatched
  split
  next => exact .ofPlain [] rfl rfl (isAnalysisOf_eq_false _ asks)
  next => exact .ofPlain [] rfl rfl (isAnalysisOf_eq_false _ asks)

theorem route_takes (context : Context) (request : Request) :
    (route context request).Takes context.site.settings context.engine request := by
  unfold route
  cases found : endpoint? context.site.settings request.path with
  | none => exact unmatched_takes (not_asksAnalysis_of_endpoint? found (by simp))
  | some endpoint =>
    by_cases allowed : endpoint.methods.contains request.method = true
    · simp only [allowed, if_true]
      by_cases same : endpoint = .analyze
      · subst same
        have posted : request.method = "POST" := by simpa [Endpoint.methods] using allowed
        exact handleAnalyze_takes context (asksAnalysis_of_endpoint? found posted)
      · exact handle_takes context same (not_asksAnalysis_of_endpoint? found (by simp [same]))
    · simp only [allowed]
      exact .ofPlain [] rfl rfl (by simp [Response.isAnalysisOf, notAllowed, Response.withHeaders,
        Response.ofError, Response.ofJson])

theorem all_isHeaderDigit {value : Text} (digits : value.all isDigit = true) :
    value.all isHeaderDigit = true := by
  refine List.all_eq_true.mpr fun c inside => ?_
  simp only [isHeaderDigit, List.all_eq_true.mp digits c inside, Bool.true_or]

theorem readLength_of_digits {value : Text} (digits : value.all isDigit = true)
    (short : value.length ≤ maxDigits) :
    readLength value = .ok (ofDigits (value.map fun c => c.toNat - '0'.toNat)) := by
  have leading : value.takeWhile isDigit = value :=
    List.takeWhile_eq_self_iff.mpr (List.all_eq_true.mp digits)
  simp only [readLength, leading, gt_iff_lt, not_lt.mpr short, if_false, digits, if_true]

theorem declaredLength?_readable (readable : request.HasReadableLength) (error : LengthError) :
    declaredLength? request ≠ some (.error error) := by
  unfold declaredLength?
  cases found : request.header? "content-length" with
  | none => simp
  | some value =>
    rcases readable value found with other | ⟨digits, short⟩
    · simp [other]
    · simp only [readLength_of_digits digits short]
      split <;> simp

theorem withSizeLimit_takes {inner : Handler} (context : Context)
    (readable : request.HasReadableLength)
    (takes : (inner context request).Takes settings engine request) :
    (withSizeLimit inner context request).Takes settings engine request := by
  unfold withSizeLimit
  split
  next error failed =>
    split at failed
    · exact absurd failed (declaredLength?_readable readable error)
    · simp at failed
  next length _ =>
    dsimp only
    split
    · exact .ofPlain [] rfl rfl (by simp [Response.isAnalysisOf, tooLarge, Response.ofJson])
    · exact takes
  next => exact takes

theorem withSecurityHeaders_takes {inner : Handler} (context : Context)
    (takes : (inner context request).Takes settings engine request) :
    (withSecurityHeaders inner context request).Takes settings engine request :=
  takes.withHeaders securityHeaders

theorem asksAnalysis_of_preflight? {found : Text × Text} (asked : request.preflight? = some found) :
    request.asksAnalysis = false := by
  unfold Request.preflight? at asked
  split at asked
  next options _ _ => simp [Request.asksAnalysis, options]
  next => simp at asked

theorem preflight_quiet (policy : CorsPolicy) (origin method : Text) (request : Request) :
    (policy.preflight origin method request).isFailure = false ∧
      ∀ key text, (policy.preflight origin method request).hasField key text = false := by
  unfold CorsPolicy.preflight
  dsimp only
  cases (policy.refusals origin method _).isEmpty <;> exact ⟨rfl, fun _ _ => rfl⟩

theorem withCors_takes {inner : Handler} (context : Context)
    (takes : (inner context request).Takes settings engine request) :
    (withCors inner context request).Takes settings engine request := by
  unfold withCors
  cases asked : request.preflight? with
  | none => exact takes.withHeaders _
  | some found =>
    have quiet :=
      preflight_quiet (CorsPolicy.ofSettings context.site.settings) found.1 found.2 request
    exact .ofPlain [] quiet.1 (isEmptyRejection_eq_false quiet.2)
      (isAnalysisOf_eq_false _ (asksAnalysis_of_preflight? asked))

theorem answer_course (context : Context) {request : Request}
    (readable : request.HasReadableLength) :
    Course context.site.settings context.engine request (answer context request).response
      (answer context request).events := by
  have takes := withCors_takes context <| withSizeLimit_takes context readable <|
    withSecurityHeaders_takes context (route_takes context request)
  have same :=
    guarded_settled (withCors (withSizeLimit (withSecurityHeaders route))) context request
  change Course _ _ _ (guarded _ context request).response (guarded _ context request).events
  rw [same.1, same.2]
  exact takes

end SnippetGauge.Service
