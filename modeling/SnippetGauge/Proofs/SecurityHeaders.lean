import SnippetGauge.Proofs.AnswerLayers

set_option autoImplicit false

namespace SnippetGauge.Service

open Text

namespace Response

structure IsSecured (response : Response) : Prop where
  types : response.Carries "x-content-type-options" "nosniff".toList
  frames : response.Carries "x-frame-options" "DENY".toList
  referrers : response.Carries "referrer-policy" "strict-origin-when-cross-origin".toList

def IsBare (response : Response) : Prop :=
  ∀ name ∈ ["x-content-type-options", "x-frame-options", "referrer-policy"],
    ∀ value, ¬ response.Carries name value

theorem IsSecured.not_isBare {response : Response} (secured : response.IsSecured) :
    ¬ response.IsBare :=
  fun bare => bare _ (List.mem_cons_self ..) _ secured.types

theorem isSecured_withHeaders (response : Response) (more : List (String × Text)) :
    ((response.withHeaders securityHeaders).withHeaders more).IsSecured where
  types := by simp [securityHeaders]
  frames := by simp [securityHeaders]
  referrers := by simp [securityHeaders]

end Response

def outerHeaderNames : List String :=
  ["content-type", "vary", "access-control-allow-origin", "access-control-allow-credentials",
    "access-control-allow-methods", "access-control-max-age", "access-control-allow-headers"]

theorem isBare_of_subset {response : Response} (outer : response.names ⊆ outerHeaderNames) :
    response.IsBare := by
  have apart : ∀ name ∈ ["x-content-type-options", "x-frame-options", "referrer-policy"],
      name ∉ outerHeaderNames := by decide
  exact fun name inside _ carried => apart name inside (outer carried.mem_names)

theorem originHeaders_names (policy : CorsPolicy) (origin : Text) :
    (policy.originHeaders origin).map (·.1) ⊆ outerHeaderNames := by
  simp only [CorsPolicy.originHeaders]
  cases policy.allowsAll <;> cases policy.allows origin <;> simp [outerHeaderNames]

variable {context : Context} {request : Request}

theorem simpleCors_names (context : Context) (request : Request) :
    (simpleCors context request).map (·.1) ⊆ outerHeaderNames := by
  have vary : "vary" ∈ outerHeaderNames := by decide
  simp only [simpleCors, CorsPolicy.simpleHeaders]
  cases request.header? "origin" with
  | none => simpa using vary
  | some origin => simpa [vary] using originHeaders_names _ origin

theorem preflight_names (policy : CorsPolicy) (origin method : Text) (request : Request) :
    (policy.preflight origin method request).names ⊆ outerHeaderNames := by
  have named := originHeaders_names policy origin
  simp only [CorsPolicy.preflight, Response.names_withHeaders, names_preflightVerdict,
    List.map_append, List.append_subset, named, true_and]
  cases request.header? "access-control-request-headers" <;> simp [outerHeaderNames]

theorem tooLarge_names (context : Context) (request : Request) :
    ((tooLarge context.site.settings.maxRequestSize).withHeaders
      (simpleCors context request)).names ⊆ outerHeaderNames := by
  have typed : (tooLarge context.site.settings.maxRequestSize).names ⊆ outerHeaderNames :=
    (by decide : ["content-type"] ⊆ outerHeaderNames)
  simpa [typed] using simpleCors_names context request

theorem crashed_names : (Response.ofError 500 "Internal server error").names ⊆ outerHeaderNames :=
  (by decide : ["content-type"] ⊆ outerHeaderNames)

theorem AnsweredBy.isBare_iff {reply : Reply} (given : AnsweredBy context request reply) :
    reply.response.IsBare ↔ reply.response.status = 413 ∨ request.preflight?.isSome = true ∨
      reply.IsUnhandled request := by
  cases given with
  | preflight origin method asked =>
    simp [isBare_of_subset (preflight_names _ origin method request), asked]
  | oversized =>
    simp [isBare_of_subset (tooLarge_names context request)]
  | crashed simple limited crash events =>
    have unhandled : Reply.IsUnhandled ⟨.ofError 500 "Internal server error",
        [⟨.error, crashMessage request crash⟩], events⟩ request := ⟨rfl, crash, by simp⟩
    simp [isBare_of_subset crashed_names, unhandled]
  | @routed response log events simple fits made =>
    have secured := Response.isSecured_withHeaders response (simpleCors context request)
    simp [secured.not_isBare, simple, made.status_ne, made.not_isUnhandled]

theorem AnsweredBy.isSecured_or_isBare {reply : Reply} (given : AnsweredBy context request reply) :
    reply.response.IsSecured ∨ reply.response.IsBare := by
  cases given with
  | preflight => exact .inr (isBare_of_subset (preflight_names _ _ _ _))
  | oversized => exact .inr (isBare_of_subset (tooLarge_names context request))
  | crashed => exact .inr (isBare_of_subset crashed_names)
  | routed => exact .inl (Response.isSecured_withHeaders _ _)

theorem AnsweredBy.isSecured_of_routed {reply : Reply} (given : AnsweredBy context request reply)
    (routed : ¬ (reply.response.status = 413 ∨ request.preflight?.isSome = true ∨
      reply.IsUnhandled request)) : reply.response.IsSecured :=
  given.isSecured_or_isBare.resolve_right fun bare => routed (given.isBare_iff.mp bare)

theorem AnsweredBy.declaresOver {reply : Reply} (given : AnsweredBy context request reply)
    (status : reply.response.status = 413) :
    hasLimitedBody request.method = true ∧
      request.DeclaresOver context.site.settings.maxRequestSize := by
  cases given with
  | preflight origin method asked =>
    exact absurd status (status_preflight_ne _ origin method request).1
  | oversized simple limited exceeds => exact ⟨limited, exceeds⟩
  | crashed => simp at status
  | routed simple fits made => exact absurd status made.status_ne

theorem AnsweredBy.isSecured_of_logged {reply : Reply} (given : AnsweredBy context request reply)
    {message : Text} (logged : ⟨.error, "Analysis error: ".toList ++ message⟩ ∈ reply.log) :
    reply.response.IsSecured := by
  cases given with
  | preflight => simp at logged
  | oversized => simp at logged
  | crashed simple limited crash =>
    have same := congrArg (fun entry => entry.message.head?) (List.mem_singleton.mp logged)
    simp [head?_crashMessage] at same
  | routed => exact Response.isSecured_withHeaders _ _

theorem AnsweredBy.isSecured_of_asksPage {reply : Reply}
    (given : AnsweredBy context request reply) (asks : request.AsksPage context.site) :
    reply.response.IsSecured := by
  have unlimited : hasLimitedBody request.method ≠ true := by simp [asks.1, hasLimitedBody]
  cases given with
  | preflight origin method asked =>
    simp [Request.preflight?, asks.1] at asked
  | oversized simple limited => exact absurd limited unlimited
  | crashed simple limited => exact absurd limited unlimited
  | routed => exact Response.isSecured_withHeaders _ _

/-- An answer has all the security headers or none of them. It has none where it does not come from
the routes: a refusal for size, a preflight, or the answer to an unhandled exception. -/
theorem securityHeaders_allOrNone (site : Site) (counts : Telemetry) (visit : Visit) :
    let reply := (step site counts visit).1
    (reply.response.IsSecured ∨ reply.response.IsBare) ∧
    (reply.response.IsBare ↔ RefusesSize site counts visit ∨
      visit.request.preflight?.isSome = true ∨ reply.IsUnhandled visit.request) ∧
    (visit.request.preflight? = none → reply.response.status ≠ 413 →
      reply.response.status ≠ 500 → reply.response.IsSecured) ∧
    (∀ message, ⟨.error, "Analysis error: ".toList ++ message⟩ ∈ reply.log →
      reply.response.IsSecured) ∧
    (visit.request.AsksPage site → reply.response.IsSecured) := by
  intro reply
  have given : AnsweredBy ⟨site, visit.engine, visit.now, counts⟩ visit.request reply :=
    answer_answeredBy _ _
  have refused : RefusesSize site counts visit ↔ reply.response.status = 413 := by
    refine ⟨fun refused => refused.status, fun status => ?_⟩
    obtain ⟨limited, exceeds⟩ := given.declaresOver status
    exact (refusesSize_iff_declaresOver site counts limited).mpr exceeds
  refine ⟨given.isSecured_or_isBare, ?_, fun simple fits works => ?_,
    fun message logged => given.isSecured_of_logged logged, given.isSecured_of_asksPage⟩
  · rw [refused]
    exact given.isBare_iff
  · apply given.isSecured_of_routed
    rintro (status | asked | unhandled)
    · exact fits status
    · simp [simple] at asked
    · exact works unhandled.1

def pageSite : Site := ⟨.defaults, fun _ => .file []⟩

def pageVisit : Visit where
  request :=
    { method := "GET"
      path := ['/']
      query := none
      headers := [("origin", "https://home".toList), ("range", "bytes=0-1".toList)]
      body := [] }
  engine := .standard
  now := ""

theorem securityHeaders_allOrNone_pageVisit :
    pageVisit.request.AsksPage pageSite ∧
      (step pageSite .zero pageVisit).1.response.status = 416 ∧
      (step pageSite .zero pageVisit).1.response.IsSecured ∧
      (step emptySite .zero raisedVisit).1.response.IsBare :=
  have asks : pageVisit.request.AsksPage pageSite := ⟨rfl, rfl, [], rfl⟩
  have unhandled : (step emptySite .zero raisedVisit).1.IsUnhandled raisedVisit.request :=
    ⟨by decide +kernel, ⟨"ValueError", (LengthError.notNumber ['²']).message⟩, by decide +kernel⟩
  ⟨asks, by decide, (securityHeaders_allOrNone pageSite .zero pageVisit).2.2.2.2 asks,
    (securityHeaders_allOrNone emptySite .zero raisedVisit).2.1.mpr (.inr (.inr unhandled))⟩

end SnippetGauge.Service
