import Mathlib.Algebra.Ring.Nat
import SnippetGauge.Proofs.AnswerCourse

set_option autoImplicit false

namespace SnippetGauge.Service

open Text

variable {settings : Settings} {engine : Engine} {request : Request}

theorem isAnalysisIn_eq_false {response : Response}
    (plain : response.isAnalysisOf request = false) (language : Language) :
    response.isAnalysisIn language request = false := by
  simp [Response.isAnalysisIn, plain]

theorem isUnwrittenIn_eq_false {response : Response} (works : response.isFailure = false)
    (language : Language) : response.isUnwrittenIn settings engine language request = false := by
  simp [Response.isUnwrittenIn, works]

theorem isAnalysisOf_of_isFailure {response : Response} (fails : response.isFailure = true) :
    response.isAnalysisOf request = false := by
  simp only [Response.isFailure, beq_iff_eq] at fails
  simp [Response.isAnalysisOf, fails]

theorem isEmptyRejection_of_isFailure {response : Response} (fails : response.isFailure = true) :
    response.isEmptyRejection = false := by
  simp only [Response.isFailure, beq_iff_eq] at fails
  simp [Response.isEmptyRejection, fails]

def languageSum (count : Language → Nat) : Nat := (Language.all.map count).sum

theorem languageSum_add (first second : Language → Nat) :
    languageSum (fun language => first language + second language) =
      languageSum first + languageSum second := by
  simp only [languageSum, Language.all, List.map_cons, List.map_nil, List.sum_cons, List.sum_nil]
  omega

theorem languageSum_single (language : Language) :
    languageSum (fun other => (language == other).toNat) = 1 := by
  cases language <;> decide

theorem Course.events_eq_nil {response : Response} {events : List Event}
    (course : Course settings engine request response events) (works : response.isFailure = false)
    (filled : response.isEmptyRejection = false) (plain : response.isAnalysisOf request = false) :
    events = [] := by
  cases course <;> simp_all

theorem Course.counts {response : Response} {events : List Event}
    (course : Course settings engine request response events) (counts : Telemetry) :
    (∀ language, (counts.recordAll events).languages language =
      counts.languages language + (response.isAnalysisIn language request).toNat +
        (response.isUnwrittenIn settings engine language request).toNat) ∧
    (counts.recordAll events).requestsFailed =
      counts.requestsFailed + response.isFailure.toNat ∧
    (counts.recordAll events).rejectedEmpty =
      counts.rejectedEmpty + response.isEmptyRejection.toNat ∧
    (counts.recordAll events).requestsTotal =
      counts.requestsTotal + response.isFailure.toNat +
        languageSum fun language => (response.isAnalysisIn language request).toNat := by
  cases course with
  | quiet works filled plain =>
    simp [Telemetry.recordAll, works, filled, isAnalysisIn_eq_false plain,
      isUnwrittenIn_eq_false works, languageSum, Language.all]
  | emptied works empty plain =>
    simp [Telemetry.recordAll, Telemetry.record, works, empty, isAnalysisIn_eq_false plain,
      isUnwrittenIn_eq_false works, languageSum, Language.all]
  | analyzed language works filled analysis named =>
    refine ⟨?_, ?_, ?_, ?_⟩
    · intro other
      rw [named, isUnwrittenIn_eq_false works]
      by_cases same : other = language <;>
        simp [Telemetry.recordAll, Telemetry.record, same, Ne.symm]
    · simp [Telemetry.recordAll, Telemetry.record, works]
    · simp [Telemetry.recordAll, Telemetry.record, filled]
    · simp only [named, languageSum_single]
      simp [Telemetry.recordAll, Telemetry.record, works]
  | failed fails lost =>
    simp [Telemetry.recordAll, Telemetry.record, fails, lost, isEmptyRejection_of_isFailure fails,
      isAnalysisIn_eq_false (isAnalysisOf_of_isFailure fails), languageSum, Language.all]
  | unwritten language fails named =>
    have plain (other : Language) : response.isAnalysisIn other request = false :=
      isAnalysisIn_eq_false (isAnalysisOf_of_isFailure fails) other
    refine ⟨?_, ?_, ?_, ?_⟩
    · intro other
      rw [named, plain]
      by_cases same : other = language <;>
        simp [Telemetry.recordAll, Telemetry.record, same, Ne.symm]
    · simp [Telemetry.recordAll, Telemetry.record, fails]
    · simp [Telemetry.recordAll, Telemetry.record, isEmptyRejection_of_isFailure fails]
    · simp [Telemetry.recordAll, Telemetry.record, fails, plain, languageSum, Language.all]

@[simp] theorem Telemetry.languages_zero (language : Language) : zero.languages language = 0 := rfl

@[simp] theorem Telemetry.requestsFailed_zero : zero.requestsFailed = 0 := rfl

@[simp] theorem Telemetry.rejectedEmpty_zero : zero.rejectedEmpty = 0 := rfl

@[simp] theorem Telemetry.requestsTotal_zero : zero.requestsTotal = 0 := rfl

def exchanges (site : Site) (counts : Telemetry) (visits : List Visit) : List (Visit × Reply) :=
  visits.zip (run site counts visits).1

def tally (test : Visit → Response → Bool) (seen : List (Visit × Reply)) : Nat :=
  seen.countP fun (visit, reply) => test visit reply.response

def failures (seen : List (Visit × Reply)) : Nat := tally (fun _ => Response.isFailure) seen

def emptyRejections (seen : List (Visit × Reply)) : Nat :=
  tally (fun _ => Response.isEmptyRejection) seen

def analysesIn (language : Language) (seen : List (Visit × Reply)) : Nat :=
  tally (fun visit => Response.isAnalysisIn language visit.request) seen

def unwrittenIn (settings : Settings) (language : Language) (seen : List (Visit × Reply)) : Nat :=
  tally (fun visit => Response.isUnwrittenIn settings visit.engine language visit.request) seen

theorem tally_cons (test : Visit → Response → Bool) (visit : Visit) (reply : Reply)
    (later : List (Visit × Reply)) :
    tally test ((visit, reply) :: later) =
      (test visit reply.response).toNat + tally test later := by
  unfold tally
  rw [List.countP_cons]
  cases holds : test visit reply.response <;> simp [holds, Nat.add_comm]

theorem step_counts (site : Site) (counts : Telemetry) {visit : Visit}
    (readable : visit.request.HasReadableLength) :
    let reply := (step site counts visit).1
    let next := (step site counts visit).2
    (∀ language, next.languages language =
      counts.languages language + (reply.response.isAnalysisIn language visit.request).toNat +
        (reply.response.isUnwrittenIn site.settings visit.engine language visit.request).toNat) ∧
    next.requestsFailed = counts.requestsFailed + reply.response.isFailure.toNat ∧
    next.rejectedEmpty = counts.rejectedEmpty + reply.response.isEmptyRejection.toNat ∧
    next.requestsTotal = counts.requestsTotal + reply.response.isFailure.toNat +
      languageSum fun language => (reply.response.isAnalysisIn language visit.request).toNat :=
  (answer_course ⟨site, visit.engine, visit.now, counts⟩ readable).counts counts

theorem run_counts (site : Site) (counts : Telemetry) {visits : List Visit}
    (readable : ∀ visit ∈ visits, visit.request.HasReadableLength) :
    let last := (run site counts visits).2
    let seen := exchanges site counts visits
    (∀ language, last.languages language =
      counts.languages language + analysesIn language seen +
        unwrittenIn site.settings language seen) ∧
    last.requestsFailed = counts.requestsFailed + failures seen ∧
    last.rejectedEmpty = counts.rejectedEmpty + emptyRejections seen ∧
    last.requestsTotal = counts.requestsTotal + failures seen +
      languageSum fun language => analysesIn language seen := by
  induction visits generalizing counts with
  | nil => simp [run, exchanges, analysesIn, unwrittenIn, failures, emptyRejections, tally,
      languageSum, Language.all]
  | cons visit later ih =>
    have here := step_counts site counts (readable visit (by simp))
    have there := ih (step site counts visit).2 fun other inside =>
      readable other (by simp [inside])
    have split : exchanges site counts (visit :: later) =
        (visit, (step site counts visit).1) ::
          exchanges site (step site counts visit).2 later := rfl
    have last : (run site counts (visit :: later)).2 =
        (run site (step site counts visit).2 later).2 := rfl
    simp only [analysesIn, unwrittenIn, failures, emptyRejections] at there ⊢
    simp only [split, last, tally_cons, languageSum_add]
    refine ⟨?_, ?_, ?_, ?_⟩
    · intro language
      have stepped := here.1 language
      have rest := there.1 language
      omega
    · have stepped := here.2.1
      have rest := there.2.1
      omega
    · have stepped := here.2.2.1
      have rest := there.2.2.1
      omega
    · have stepped := here.2.2.2
      have rest := there.2.2.2
      omega

/-- The counters of a fresh application tell how many answers of each kind were given; an analysis
whose tokens cannot be written counts for its language and as a failure. -/
theorem telemetry_tallies (site : Site) (visits : List Visit)
    (readable : ∀ visit ∈ visits, visit.request.HasReadableLength) :
    let counts := (run site .zero visits).2
    let seen := exchanges site .zero visits
    (∀ language, counts.languages language =
      analysesIn language seen + unwrittenIn site.settings language seen) ∧
    counts.requestsFailed = failures seen ∧
    counts.rejectedEmpty = emptyRejections seen ∧
    counts.requestsTotal + languageSum (unwrittenIn site.settings · seen) =
      counts.requestsFailed + languageSum counts.languages ∧
    ∀ before visit, visit.request.HasReadableLength →
      let (reply, after) := step site before visit
      reply.response.isFailure = false → reply.response.isEmptyRejection = false →
        reply.response.isAnalysisOf visit.request = false → after = before := by
  obtain ⟨languages, failed, empty, total⟩ := run_counts site .zero readable
  simp only [Telemetry.languages_zero, Telemetry.requestsFailed_zero, Telemetry.rejectedEmpty_zero,
    Telemetry.requestsTotal_zero, Nat.zero_add] at languages failed empty total
  refine ⟨languages, failed, empty, ?_, ?_⟩
  · have sum := congrArg languageSum (funext languages)
    rw [languageSum_add] at sum
    rw [total, failed, sum]
    exact Nat.add_assoc _ _ _
  · intro before visit bounded works filled plain
    have course := answer_course ⟨site, visit.engine, visit.now, before⟩ bounded
    have none := course.events_eq_nil works filled plain
    exact congrArg before.recordAll none

def emptySite : Site := ⟨.defaults, fun _ => .absent⟩

def halfVisit : Visit where
  request :=
    { method := "POST"
      path := "/api/analyze".toList
      query := none
      headers := [("content-type", "application/json".toList), ("content-length", ['3', '8'])]
      body := "\x7b\"code\":\"\\ud800\",\"includeTokens\":true\x7d".toList.map
        fun c => UInt8.ofNat c.toNat }
  engine := .standard
  now := ""

theorem halfVisit_readable : halfVisit.request.HasReadableLength := by
  intro value found
  have declared : halfVisit.request.header? "content-length" = some ['3', '8'] := rfl
  rw [declared, Option.some.injEq] at found
  subst found
  exact .inr (by decide)

def postedTo (path body : String) (engine : Engine) : Visit where
  request :=
    { method := "POST"
      path := path.toList
      query := none
      headers := [("content-type", "application/json".toList)]
      body := body.toList.map fun c => UInt8.ofNat c.toNat }
  engine := engine
  now := ""

theorem postedTo_readable (path body : String) (engine : Engine) :
    (postedTo path body engine).request.HasReadableLength := by
  intro value found
  simp [postedTo, Request.header?] at found

/-- An analysis, an empty code, a path that leads nowhere, a fault, and an analysis whose tokens
cannot be written. -/
def mixedVisits : List Visit :=
  [postedTo "/api/analyze" "\x7b\"code\":\"#include\"\x7d" .standard,
    postedTo "/api/analyze" "\x7b\"code\":\"\"\x7d" .standard, postedTo "/lost" "" .standard,
    postedTo "/api/analyze" "\x7b\"code\":\"x\"\x7d" fun _ _ => .raised "ValueError" "fault",
    halfVisit]

theorem mixedVisits_readable : ∀ visit ∈ mixedVisits, visit.request.HasReadableLength := by
  simp [mixedVisits, postedTo_readable, halfVisit_readable]

def mixedCounts : Telemetry := (run emptySite .zero mixedVisits).2

theorem telemetry_tallies_mixedVisits :
    (∀ visit ∈ mixedVisits, visit.request.HasReadableLength) ∧
      (exchanges emptySite .zero mixedVisits).map (·.2.response.status) =
        [200, 400, 404, 500, 500] ∧
      Language.all.map mixedCounts.languages = [1, 0, 0, 1] ∧ mixedCounts.requestsFailed = 2 ∧
      mixedCounts.rejectedEmpty = 1 ∧ mixedCounts.requestsTotal = 3 := by
  obtain ⟨languages, failed, empty, total, -⟩ :=
    telemetry_tallies emptySite mixedVisits mixedVisits_readable
  have tallied : let seen := exchanges emptySite .zero mixedVisits
      let analyses language :=
        analysesIn language seen + unwrittenIn emptySite.settings language seen
      seen.map (·.2.response.status) = [200, 400, 404, 500, 500] ∧
        Language.all.map analyses = [1, 0, 0, 1] ∧ failures seen = 2 ∧ emptyRejections seen = 1 ∧
        languageSum (unwrittenIn emptySite.settings · seen) = 1 := by decide +kernel
  refine ⟨mixedVisits_readable, tallied.1, ?_⟩
  rw [mixedCounts]
  generalize (run emptySite .zero mixedVisits).2 = counts at languages failed empty total ⊢
  generalize exchanges emptySite .zero mixedVisits = seen at tallied languages failed empty total
  obtain ⟨-, analyses, fails, empties, unwritten⟩ := tallied
  rw [← funext languages] at analyses
  have detected : languageSum counts.languages = 2 := congrArg List.sum analyses
  exact ⟨analyses, failed.trans fails, empty.trans empties, by omega⟩

def TalliesAnswers (site : Site) (visits : List Visit) : Prop :=
  let counts := (run site .zero visits).2
  let seen := exchanges site .zero visits
  (∀ language, counts.languages language = analysesIn language seen) ∧
    counts.requestsFailed = failures seen ∧
    counts.rejectedEmpty = emptyRejections seen ∧
    counts.requestsTotal = counts.requestsFailed + languageSum counts.languages

theorem not_talliesAnswers :
    ¬ ∀ site visits, (∀ visit ∈ visits, visit.request.HasReadableLength) →
      TalliesAnswers site visits := by
  intro claimed
  obtain ⟨languages, failed, empty, total⟩ :=
    claimed emptySite [halfVisit] (List.forall_mem_singleton.mpr halfVisit_readable)
  have counted : (run emptySite .zero [halfVisit]).2.requestsTotal = 1 ∧
      (run emptySite .zero [halfVisit]).2.requestsFailed = 1 ∧
      languageSum (run emptySite .zero [halfVisit]).2.languages = 1 := by decide +kernel
  rw [counted.1, counted.2.1, counted.2.2] at total
  exact absurd total (by decide)

end SnippetGauge.Service
