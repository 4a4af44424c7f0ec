import SnippetGauge.Proofs.AnswerLayers

set_option autoImplicit false

namespace SnippetGauge

open Text

def Settings.originPieces (settings : Settings) : List Text :=
  (splitOn ',' settings.allowedOrigins.toList).map trim

namespace Service

theorem allowsAll_iff (settings : Settings) :
    (CorsPolicy.ofSettings settings).allowsAll = true ↔ ['*'] ∈ settings.originPieces := by
  have kept : ['*'] ∈ settings.corsPieces ↔ ['*'] ∈ settings.originPieces := by
    simp [Settings.corsPieces, Settings.originPieces]
  by_cases star : ['*'] ∈ settings.corsPieces
  · simp [CorsPolicy.allowsAll, CorsPolicy.ofSettings, Settings.corsOrigins, star, ← kept]
  · simp [CorsPolicy.allowsAll, CorsPolicy.ofSettings, Settings.corsOrigins, star, ← kept]

theorem mem_origins_iff {settings : Settings} (starless : ['*'] ∉ settings.originPieces)
    (origin : Text) :
    origin ∈ (CorsPolicy.ofSettings settings).origins ↔
      origin ∈ settings.originPieces ∧ origin ≠ [] := by
  have pieces : ['*'] ∉ settings.corsPieces := fun star => starless (List.mem_filter.mp star).1
  simp only [CorsPolicy.ofSettings, Settings.corsOrigins, List.contains_iff_mem, pieces, if_false]
  simp [Settings.corsPieces, Settings.originPieces]

namespace CorsPolicy

variable {policy : CorsPolicy} {origin value : Text}

theorem not_mem_originHeaders_credentials (all : policy.allowsAll = true) :
    ("access-control-allow-credentials", value) ∉ policy.originHeaders origin := by
  simp [originHeaders, all]

theorem mem_originHeaders_origin_iff (some : policy.allowsAll = false) :
    ("access-control-allow-origin", value) ∈ policy.originHeaders origin ↔
      origin ∈ policy.origins ∧ value = origin := by
  by_cases listed : origin ∈ policy.origins <;>
    simp [originHeaders, allows, some, listed]

end CorsPolicy

def originHeaderNames : List String :=
  ["access-control-allow-origin", "access-control-allow-credentials"]

def otherHeaderNames : List String :=
  routeHeaderNames ++ securityHeaders.map (·.1) ++ ["vary", "access-control-allow-methods",
    "access-control-max-age", "access-control-allow-headers"]

theorem not_mem_otherHeaderNames : ∀ name ∈ originHeaderNames, name ∉ otherHeaderNames := by
  decide

variable {context : Context} {request : Request} {name : String}

theorem mem_simpleCors_iff (about : name ∈ originHeaderNames) (value : Text) :
    (name, value) ∈ simpleCors context request ↔ ∃ origin,
      request.header? "origin" = some origin ∧
        (name, value) ∈ (CorsPolicy.ofSettings context.site.settings).originHeaders origin := by
  have other : name ≠ "vary" := by
    rintro rfl
    exact not_mem_otherHeaderNames _ about (by decide)
  cases found : request.header? "origin" <;>
    simp [simpleCors, CorsPolicy.simpleHeaders, found, other]

theorem header?_origin_of_preflight? {origin method : Text}
    (asked : request.preflight? = some (origin, method)) :
    request.header? "origin" = some origin := by
  simp only [Request.preflight?] at asked
  split at asked
  next found _ =>
    rw [found]
    simpa using congrArg (Option.map Prod.fst) asked
  next => contradiction

theorem carries_preflight_iff (about : name ∈ originHeaderNames) (policy : CorsPolicy)
    (origin method value : Text) :
    (policy.preflight origin method request).Carries name value ↔
      (name, value) ∈ policy.originHeaders origin := by
  have others := not_mem_otherHeaderNames name about
  simp only [otherHeaderNames, routeHeaderNames, List.mem_append, List.mem_cons, List.not_mem_nil,
    or_false, not_or] at others
  obtain ⟨⟨⟨typed, -⟩, -⟩, vary, methods, age, granted⟩ := others
  have plain (verdict : Bool) (refusal : String) :
      ¬ (if verdict then Response.ofText 200 "OK" else .ofText 400 refusal).Carries name value :=
    fun carried => typed (List.mem_singleton.mp
      (names_preflightVerdict verdict refusal ▸ carried.mem_names))
  simp only [CorsPolicy.preflight, Response.carries_withHeaders, plain, false_or]
  cases request.header? "access-control-request-headers" <;> simp [vary, methods, age, granted]

theorem AnsweredBy.carries_iff {reply : Reply} (given : AnsweredBy context request reply)
    (about : name ∈ originHeaderNames) (value : Text) :
    reply.response.Carries name value ↔ (∃ origin, request.header? "origin" = some origin ∧
      (name, value) ∈ (CorsPolicy.ofSettings context.site.settings).originHeaders origin) ∧
        ¬ reply.IsUnhandled request := by
  have others := not_mem_otherHeaderNames name about
  simp only [otherHeaderNames, List.mem_append, not_or] at others
  obtain ⟨⟨fromRoutes, fromSecurity⟩, -⟩ := others
  have typed {response : Response} (only : response.names = ["content-type"]) :
      ¬ response.Carries name value := by
    intro carried
    have named := List.mem_singleton.mp (only ▸ carried.mem_names)
    exact fromRoutes (named ▸ by decide)
  cases given with
  | preflight origin method asked =>
    rw [carries_preflight_iff about]
    simp [header?_origin_of_preflight? asked, Reply.IsUnhandled, status_preflight_ne]
  | oversized =>
    have bare : ¬ (tooLarge context.site.settings.maxRequestSize).Carries name value := typed rfl
    simp [mem_simpleCors_iff about, bare, Reply.IsUnhandled]
  | crashed =>
    have bare : ¬ (Response.ofError 500 "Internal server error").Carries name value := typed rfl
    simp [bare, Reply.IsUnhandled]
  | @routed response log events simple fits made =>
    have bare : ¬ response.Carries name value :=
      fun carried => fromRoutes (made.names_subset carried.mem_names)
    have secure : (name, value) ∉ securityHeaders :=
      fun inside => fromSecurity (List.mem_map_of_mem inside)
    simp [mem_simpleCors_iff about, bare, secure, made.not_isUnhandled]

/-- A star among the origins leaves no answer with credentials. Without one, an answer allows the
origin of its own request and no other, and that only if it is listed. -/
theorem cors_starOrCredentials (site : Site) (counts : Telemetry) (visit : Visit) :
    let reply := (step site counts visit).1
    (['*'] ∈ site.settings.originPieces → ∀ value,
      ¬ reply.response.Carries "access-control-allow-credentials" value) ∧
    (['*'] ∉ site.settings.originPieces →
      ¬ reply.response.Carries "access-control-allow-origin" ['*'] ∧ ∀ value,
        (reply.response.Carries "access-control-allow-origin" value ↔
          visit.request.header? "origin" = some value ∧ value ∈ site.settings.originPieces ∧
            value ≠ [] ∧ ¬ reply.IsUnhandled visit.request)) := by
  intro reply
  have given : AnsweredBy ⟨site, visit.engine, visit.now, counts⟩ visit.request reply :=
    answer_answeredBy _ _
  refine ⟨fun star value carried => ?_, fun starless => ?_⟩
  · obtain ⟨⟨origin, -, inside⟩, -⟩ := (given.carries_iff (by decide) value).mp carried
    exact CorsPolicy.not_mem_originHeaders_credentials ((allowsAll_iff _).mpr star) inside
  · have listed : (CorsPolicy.ofSettings site.settings).allowsAll = false := by
      rw [Bool.eq_false_iff]
      exact fun all => starless ((allowsAll_iff _).mp all)
    have allowed (value : Text) : reply.response.Carries "access-control-allow-origin" value ↔
        visit.request.header? "origin" = some value ∧ value ∈ site.settings.originPieces ∧
          value ≠ [] ∧ ¬ reply.IsUnhandled visit.request := by
      rw [given.carries_iff (by decide) value]
      simp only [CorsPolicy.mem_originHeaders_origin_iff listed, mem_origins_iff starless]
      constructor
      · rintro ⟨⟨origin, found, ⟨piece, filled⟩, rfl⟩, handled⟩
        exact ⟨found, piece, filled, handled⟩
      · rintro ⟨found, piece, filled, handled⟩
        exact ⟨⟨value, found, ⟨piece, filled⟩, rfl⟩, handled⟩
    exact ⟨fun carried => starless ((allowed ['*']).mp carried).2.1, allowed⟩

def listedSite : Site :=
  ⟨{ Settings.defaults with allowedOrigins := " https://editor ,, https://home" }, fun _ => .absent⟩

def originVisit : Visit where
  request :=
    { method := "GET"
      path := "/nowhere".toList
      query := none
      headers := [("origin", "https://home".toList)]
      body := [] }
  engine := .standard
  now := ""

theorem cors_starOrCredentials_originVisit :
    ['*'] ∈ emptySite.settings.originPieces ∧ ['*'] ∉ listedSite.settings.originPieces ∧
      ¬ (step emptySite .zero originVisit).1.response.Carries
        "access-control-allow-credentials" "true".toList ∧
      (step listedSite .zero originVisit).1.response.Carries
        "access-control-allow-origin" "https://home".toList :=
  have star : ['*'] ∈ emptySite.settings.originPieces := by decide
  have starless : ['*'] ∉ listedSite.settings.originPieces := by decide
  have status : (step listedSite .zero originVisit).1.response.status = 404 := by decide
  ⟨star, starless, (cors_starOrCredentials emptySite .zero originVisit).1 star _,
    (((cors_starOrCredentials listedSite .zero originVisit).2 starless).2 _).mpr
      ⟨by decide, by decide, by decide,
        fun failed => absurd (status.symm.trans failed.1) (by decide)⟩⟩

end Service

end SnippetGauge
