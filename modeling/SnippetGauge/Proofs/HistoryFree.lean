import SnippetGauge.Proofs.TelemetryTally

set_option autoImplicit false

namespace SnippetGauge.Service

open Text

def reportPaths : List String := ["/api/v1/health", "/api/v1/metrics", "/health", "/metrics"]

def Request.asksReport (request : Request) : Bool :=
  request.method == "GET" && reportPaths.any (·.toList == request.path)

namespace Telemetry

def plus (counts change : Telemetry) : Telemetry where
  requestsTotal := counts.requestsTotal + change.requestsTotal
  requestsFailed := counts.requestsFailed + change.requestsFailed
  rejectedEmpty := counts.rejectedEmpty + change.rejectedEmpty
  languages := fun language => counts.languages language + change.languages language

theorem plus_zero (counts : Telemetry) : counts.plus zero = counts := rfl

theorem record_plus (counts change : Telemetry) (event : Event) :
    (counts.plus change).record event = counts.plus (change.record event) := by
  cases event <;> simp [plus, record, Nat.add_assoc]

theorem recordAll_eq_plus (counts : Telemetry) (events : List Event) :
    counts.recordAll events = counts.plus (zero.recordAll events) := by
  -- Said of any change, because the counters do not stay at zero along the events.
  have scan (change : Telemetry) :
      (counts.plus change).recordAll events = counts.plus (change.recordAll events) := by
    induction events generalizing change with
    | nil => rfl
    | cons event later ih =>
      simp only [recordAll, List.foldl_cons, record_plus] at ih ⊢
      exact ih (change.record event)
  have whole := scan zero
  rwa [plus_zero] at whole

theorem record_comm (counts : Telemetry) (first second : Event) :
    (counts.record first).record second = (counts.record second).record first := by
  cases first <;> cases second <;> simp [record, Nat.add_right_comm]

theorem recordAll_perm {events other : List Event} (perm : events.Perm other)
    (counts : Telemetry) : counts.recordAll events = counts.recordAll other :=
  perm.foldl_eq' (fun first _ second _ before => record_comm before first second) counts

end Telemetry

section

variable {site : Site} {engine : Engine} {now : String} {counts : Telemetry} {request : Request}

theorem mem_reportPaths_of_mem_routes (settings : Settings) : ∀ entry ∈ routes settings,
    entry.2 = .health ∨ entry.2 = .metrics → entry.1 ∈ reportPaths := by
  unfold routes
  generalize settings.debug = debug
  cases debug <;> decide

theorem isReportPath_of_endpoint? {settings : Settings} {path : Text} {endpoint : Endpoint}
    (found : endpoint? settings path = some endpoint)
    (report : endpoint = .health ∨ endpoint = .metrics) :
    reportPaths.any (·.toList == path) = true := by
  obtain ⟨name, listed, spelled⟩ := exists_route_of_endpoint? found
  have named := mem_reportPaths_of_mem_routes settings _ listed report
  exact List.any_eq_true.mpr ⟨name, named, by simp [spelled]⟩

theorem route_stateFree (other : request.asksReport = false) :
    route ⟨site, engine, now, counts⟩ request = route ⟨site, engine, "", .zero⟩ request := by
  simp only [route]
  cases found : endpoint? site.settings request.path with
  | none => rfl
  | some endpoint =>
    cases endpoint with
    | analyze | root | docs | redoc | schema => rfl
    | health | metrics =>
      have named := isReportPath_of_endpoint? found (by simp)
      have method : request.method ≠ "GET" := by
        simpa [Request.asksReport, named] using other
      simp [Endpoint.methods, method]

theorem answer_stateFree (other : request.asksReport = false) :
    answer ⟨site, engine, now, counts⟩ request = answer ⟨site, engine, "", .zero⟩ request := by
  have routed : route ⟨site, engine, now, counts⟩ request = _ := route_stateFree other
  simp only [answer, guarded, withCors, withSizeLimit, withSecurityHeaders, routed]

end

theorem step_stateFree (site : Site) (counts : Telemetry) {visit : Visit} (now : String)
    (other : visit.request.asksReport = false) :
    step site counts { visit with now } =
      ((step site .zero visit).1, counts.plus (step site .zero visit).2) := by
  have asked : answer ⟨site, visit.engine, now, counts⟩ visit.request = _ := answer_stateFree other
  have fresh : answer ⟨site, visit.engine, visit.now, .zero⟩ visit.request = _ :=
    answer_stateFree other
  simp only [step, asked, fresh, counts.recordAll_eq_plus]

theorem run_stateFree (site : Site) (counts : Telemetry) {visits : List Visit}
    (others : ∀ visit ∈ visits, visit.request.asksReport = false) :
    run site counts visits =
      (visits.map fun visit => (step site .zero visit).1,
        counts.recordAll (visits.flatMap fun visit => (step site .zero visit).1.events)) := by
  induction visits generalizing counts with
  | nil => rfl
  | cons visit later ih =>
    have here : step site counts visit = _ :=
      step_stateFree site counts visit.now (others visit (by simp))
    have events : (step site .zero visit).2 =
        Telemetry.zero.recordAll (step site .zero visit).1.events := rfl
    have there := ih (step site counts visit).2 fun next mem => others next (by simp [mem])
    simp only [run, there, List.map_cons, List.flatMap_cons, Telemetry.recordAll_append]
    simp only [here, events, ← Telemetry.recordAll_eq_plus]

/-- Apart from the reports, a request is answered and counted alike after every history; so in
whatever order such requests come, each keeps its answer, and the counters end alike. -/
theorem step_historyFree (site : Site) :
    (∀ (before other : List Visit) (visit : Visit) (now : String),
      visit.request.asksReport = false →
        ∃ (reply : Reply) (change : Telemetry),
          step site (run site .zero before).2 visit =
            (reply, (run site .zero before).2.plus change) ∧
          step site (run site .zero other).2 { visit with now } =
            (reply, (run site .zero other).2.plus change)) ∧
    ∀ (counts : Telemetry) (visits reordered : List Visit),
      (∀ visit ∈ visits, visit.request.asksReport = false) → visits.Perm reordered →
        (run site counts visits).2 = (run site counts reordered).2 ∧
        ∃ reply : Visit → Reply, (run site counts visits).1 = visits.map reply ∧
          (run site counts reordered).1 = reordered.map reply := by
  constructor
  next =>
    intro before other visit now free
    exact ⟨_, _, step_stateFree site _ visit.now free, step_stateFree site _ now free⟩
  next =>
    intro counts visits reordered others perm
    have first := run_stateFree site counts others
    have second := run_stateFree site counts fun visit mem => others visit (perm.mem_iff.mpr mem)
    refine ⟨?_, fun visit => (step site .zero visit).1, by rw [first], by rw [second]⟩
    rw [first, second]
    exact Telemetry.recordAll_perm (perm.flatMap_right _) counts

def failingVisits : List Visit :=
  [{ halfVisit with request := { halfVisit.request with body := [] } }, halfVisit]

theorem step_historyFree_failingVisits :
    halfVisit.request.asksReport = false ∧ failingVisits.Perm failingVisits.reverse ∧
      (run emptySite .zero failingVisits).2 = (run emptySite .zero failingVisits.reverse).2 ∧
      ∃ (reply : Reply) (change : Telemetry),
        step emptySite (run emptySite .zero []).2 halfVisit =
          (reply, (run emptySite .zero []).2.plus change) ∧
        step emptySite (run emptySite .zero failingVisits).2 { halfVisit with now := "noon" } =
          (reply, (run emptySite .zero failingVisits).2.plus change) :=
  have free : halfVisit.request.asksReport = false := by decide
  have others : ∀ visit ∈ failingVisits, visit.request.asksReport = false := by decide
  have reversed : failingVisits.Perm failingVisits.reverse := (List.reverse_perm _).symm
  ⟨free, reversed, ((step_historyFree emptySite).2 .zero _ _ others reversed).1,
    (step_historyFree emptySite).1 [] failingVisits halfVisit "noon" free⟩

end SnippetGauge.Service
