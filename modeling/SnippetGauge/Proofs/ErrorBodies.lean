import SnippetGauge.Proofs.AnswerLayers
import SnippetGauge.Proofs.SameAnalysis

set_option autoImplicit false

namespace SnippetGauge.Service

open Text

namespace Response

/-- An object that says that there is no result, and why; only a refusal for size gives details. -/
def IsErrorBody (response : Response) : Prop :=
  ∃ members, response.content = .json (.obj members) ∧
    Json.member? members "success" = some (.bool false) ∧
    (∃ message, Json.member? members "error" = some (.str message)) ∧
    ∀ member ∈ members, member.1 = "success" ∨ member.1 = "error" ∨
      member.1 = "details" ∧ response.status = 413

def reportsSuccess (response : Response) : Bool :=
  match response.content with
  | .json (.obj members) =>
    match Json.member? members "success" with
    | some (.bool value) => value
    | _ => false
  | _ => false

theorem isErrorBody_ofError (status : Nat) (message : String) :
    (ofError status message).IsErrorBody := by
  refine ⟨_, rfl, ?_, ⟨message, ?_⟩, ?_⟩
  · simp [Json.member?]
  · simp [Json.member?]
  · simp

theorem isErrorBody_tooLarge (limit : Int) : (tooLarge limit).IsErrorBody := by
  refine ⟨_, rfl, ?_, ⟨"Request too large", ?_⟩, ?_⟩
  · simp [Json.member?]
  · simp [Json.member?]
  · simp [tooLarge]

theorem IsErrorBody.withHeaders {response : Response} (body : response.IsErrorBody)
    (more : List (String × Text)) : (response.withHeaders more).IsErrorBody := body

theorem IsErrorBody.not_reportsSuccess {response : Response} (body : response.IsErrorBody) :
    ¬ response.reportsSuccess = true := by
  obtain ⟨members, content, success, -⟩ := body
  simp [reportsSuccess, content, success]

end Response

variable {context : Context} {request : Request}

theorem method_of_asksAnalysis (asks : request.asksAnalysis = true) : request.method = "POST" := by
  simp only [Request.asksAnalysis, Bool.and_eq_true, beq_iff_eq] at asks
  exact asks.1

theorem Routed.isErrorBody {response : Response} {log : List LogRecord} {events : List Event}
    (made : Routed context request ⟨.ok response, log, events⟩) (fails : 400 ≤ response.status)
    (other : ¬ request.AsksPage context.site) : response.IsErrorBody := by
  cases made with
  | refused => exact Response.isErrorBody_ofError _ _
  | notAllowed => exact (Response.isErrorBody_ofError 405 _).withHeaders _
  | redirected => simp [redirect] at fails
  | reported => simp at fails
  | generated => simp at fails
  | page bytes asked => exact absurd asked other
  | analyzed => simp at fails

def ShowsAnalysis (settings : Settings) (engine : Engine) (request : Request)
    (response : Response) : Prop :=
  response.status = 200 ∧ ∃ parsed code hint analysis spellings report,
    finished? settings engine request = some (parsed, analysis, spellings) ∧
    parsed.code = some code ∧ parsed.languageHint = .ok hint ∧
    engine code hint = .done analysis spellings ∧ response.content = .json report ∧
    Shown.answered report = (Shown.ofAnalysis analysis).keeping parsed.includeTokens

theorem Routed.showsAnalysis {response : Response} {log : List LogRecord} {events : List Event}
    (made : Routed context request ⟨.ok response, log, events⟩)
    (asks : request.asksAnalysis = true) (succeeds : response.reportsSuccess = true) :
    ShowsAnalysis context.site.settings context.engine request response := by
  cases made with
  | refused => exact absurd succeeds (Response.isErrorBody_ofError _ _).not_reportsSuccess
  | notAllowed =>
    exact absurd succeeds ((Response.isErrorBody_ofError 405 _).withHeaders _).not_reportsSuccess
  | redirected => contradiction
  | reported value other => simp [other] at asks
  | generated => contradiction
  | page bytes asked =>
    have posted := method_of_asksAnalysis asks
    simp [asked.1] at posted
  | analyzed finished =>
    obtain ⟨code, read, holds, -, done⟩ := finished?_eq_some_iff.mp finished
    have hinted := languageHint_of_read read
    simp only [Engine.ask, hinted] at done
    exact ⟨rfl, _, _, _, _, _, _, finished, holds, hinted, done, rfl,
      Shown.answered_analysisJson _ _⟩

theorem AnsweredBy.isErrorBody {reply : Reply} (given : AnsweredBy context request reply)
    (fails : 400 ≤ reply.response.status) (simple : request.preflight? = none)
    (other : ¬ request.AsksPage context.site) : reply.response.IsErrorBody := by
  cases given with
  | preflight origin method asked => simp [asked] at simple
  | oversized => exact (Response.isErrorBody_tooLarge _).withHeaders _
  | crashed => exact Response.isErrorBody_ofError _ _
  | routed _ _ made => exact ((made.isErrorBody fails other).withHeaders _).withHeaders _

theorem AnsweredBy.showsAnalysis {reply : Reply} (given : AnsweredBy context request reply)
    (asks : request.asksAnalysis = true) (succeeds : reply.response.reportsSuccess = true) :
    ShowsAnalysis context.site.settings context.engine request reply.response := by
  cases given with
  | preflight origin method asked =>
    simp [asksAnalysis_of_preflight? asked] at asks
  | oversized =>
    exact absurd succeeds ((Response.isErrorBody_tooLarge _).withHeaders _).not_reportsSuccess
  | crashed => exact absurd succeeds (Response.isErrorBody_ofError _ _).not_reportsSuccess
  | routed _ _ made => exact made.showsAnalysis asks succeeds

theorem answers_errorOrAnalysis (site : Site) (counts : Telemetry) (visit : Visit) :
    let response := (step site counts visit).1.response
    (400 ≤ response.status → visit.request.preflight? = none → ¬ visit.request.AsksPage site →
      response.IsErrorBody) ∧
    (visit.request.asksAnalysis = true → response.reportsSuccess = true →
      ShowsAnalysis site.settings visit.engine visit.request response) :=
  have given := answer_answeredBy ⟨site, visit.engine, visit.now, counts⟩ visit.request
  ⟨fun fails simple other => given.isErrorBody fails simple other,
    fun asks succeeds => given.showsAnalysis asks succeeds⟩

theorem answers_errorOrAnalysis_halfVisit :
    (step emptySite .zero halfVisit).1.response.status = 500 ∧
      (step emptySite .zero halfVisit).1.response.IsErrorBody ∧
      ShowsAnalysis emptySite.settings .standard (wideVisit []).request
        (step emptySite .zero (wideVisit [])).1.response :=
  have status : (step emptySite .zero halfVisit).1.response.status = 500 := by decide +kernel
  have simple : halfVisit.request.preflight? = none := by decide
  ⟨status,
    (answers_errorOrAnalysis emptySite .zero halfVisit).1 (by simp [status]) simple
      fun asked => absurd asked.1 (by decide),
    (answers_errorOrAnalysis emptySite .zero (wideVisit [])).2 (by decide)
      (by decide +kernel)⟩

end SnippetGauge.Service
