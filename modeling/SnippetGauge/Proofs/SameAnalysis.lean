import SnippetGauge.Proofs.CommandReport
import SnippetGauge.Proofs.LoadedSettings
import SnippetGauge.Proofs.SubmittedCode

set_option autoImplicit false

namespace SnippetGauge

open Text Encoding

def Json.field? : Json → String → Option Json
  | .obj members, key => member? members key
  | _, _ => none

structure Shown where
  language : Option Json
  findings : Option Json
  complexity : Option Json
  tokens : Option Json
  tokenCount : Option Json

namespace Shown

def printed (report : Json) : Shown where
  language := report.field? "language"
  findings := report.field? "findings"
  complexity := report.field? "complexity"
  tokens := report.field? "tokens"
  tokenCount := report.field? "token_count"

def answered (report : Json) : Shown where
  language := report.field? "language"
  findings := report.field? "debugResults"
  complexity := report.field? "complexity"
  tokens := report.field? "tokens"
  tokenCount := report.field? "tokenCount"

def ofAnalysis (analysis : Analysis) : Shown where
  language := some (.str analysis.language.name)
  findings := some (.arr (analysis.findings.map Finding.toJson))
  complexity := some analysis.complexity.toJson
  tokens := some (.arr (analysis.tokens.map Token.toJson))
  tokenCount := some (.int analysis.tokens.length)

def keeping (shown : Shown) (withTokens : Bool) : Shown :=
  if withTokens then shown else { shown with tokens := none }

theorem language_keeping (shown : Shown) (withTokens : Bool) :
    (shown.keeping withTokens).language = shown.language := by
  cases withTokens <;> rfl

theorem printed_toJson (analysis : Analysis) (withTokens : Bool) :
    printed (analysis.toJson withTokens) = (ofAnalysis analysis).keeping withTokens := by
  cases withTokens <;>
    simp [printed, Json.field?, Analysis.toJson, Json.member?, keeping, ofAnalysis,
      Analysis.tokenCount]

theorem answered_analysisJson (analysis : Analysis) (withTokens : Bool) :
    answered (Service.analysisJson analysis withTokens) =
      (ofAnalysis analysis).keeping withTokens := by
  cases withTokens <;>
    simp [answered, Json.field?, Service.analysisJson, Json.member?, keeping, ofAnalysis,
      Analysis.tokenCount]

end Shown

namespace Service

structure Request.Fits (request : Request) (settings : Settings) : Prop where
  declared : request.DeclaresItsSize ∨ request.header? "content-length" = none
  within : request.body.length ≤ settings.maxRequestSize

theorem Request.Fits.readable {request : Request} {settings : Settings}
    (fits : request.Fits settings) :
    request.HasReadableLength ∧ ¬ request.DeclaresOver settings.maxRequestSize := by
  have within := fits.within
  rcases fits.declared with honest | absent
  · refine ⟨fun value found => ?_, ?_⟩
    · rw [honest.declared, Option.some.injEq] at found
      subst found
      exact .inr ⟨List.all_eq_true.mpr fun c inside => isDigit_of_mem_toString inside,
        honest.readable⟩
    · simp only [DeclaresOver, honest.declaredLength?, Option.some.injEq, Except.ok.injEq,
        exists_eq_left', not_lt]
      exact within
  · refine ⟨fun value found => by simp [absent] at found, ?_⟩
    simp [DeclaresOver, declaredLength?, absent]

/-- For a code in a file and for the same code in a body of any form, the command and the service
show the analysis of the code, with the tokens where they are asked for. A hint that names a
language takes the place of detection in the service. -/
theorem commandAndService_agree {site : Site} {environment : List (String × String)}
    {envFile : Option String} (loaded : Settings.load environment envFile = .ok site.settings)
    {code : Text} (filled : code ≠ []) (oneBreak : '\r' ∉ code)
    (short : code.length ≤ site.settings.maxCodeLength)
    {arguments : List Text} {name : Text} {listed : Bool}
    (asks : Command.Analyze.Asks arguments name listed) {stdin : Bytes} {files : Files}
    (held : Command.Analyze.source stdin files name = .file (utf8 code))
    {request : Request} {hint : Option Text} {wanted : Option Bool}
    (submits : request.Submits code (hint.map .text) wanted)
    (brief : ∀ name, hint = some name → name.length ≤ AnalyzeRequest.maxHintLength)
    (fits : request.Fits site.settings) (counts : Telemetry) (now : String) :
    let reply := (step site counts ⟨request, .standard, now⟩).1.response
    let judged := Shown.ofAnalysis (analyze code none)
    ∃ out printed answered,
      Command.Analyze.run arguments stdin files = .ok ⟨some 0, out, []⟩ ∧
      Json.parse out = .ok printed ∧ Shown.printed printed = judged.keeping listed ∧
      reply.status = 200 ∧ reply.content = .json answered ∧
      ((∀ language, ¬ Names hint language) →
        Shown.answered answered = judged.keeping (wanted.getD false)) ∧
      (∀ language, Names hint language → answered.field? "language" = some (.str language.name) ∧
        Shown.answered answered =
          (Shown.ofAnalysis (analyze code (some language))).keeping (wanted.getD false)) ∧
      ∀ layout : Json.Layout, layout.IsPlain →
        readJson (utf8 (Json.write layout 0 (.obj (submission code (hint.map .text) wanted)))) =
          .ok (.obj (submission code (hint.map .text) wanted)) := by
  intro reply judged
  have small : code.length < 10 ^ Json.maxIntegerDigits := by
    have lowered {n k : Nat} (below : (n : Int) < 10 ^ k) : n < 10 ^ k := by exact_mod_cast below
    exact lowered (short.trans_lt (Settings.maxCodeLength_lt loaded))
  obtain ⟨readable, within⟩ := fits.readable
  have answer := answer_of_submits submits ⟨site, .standard, now, counts⟩ rfl readable within filled
    short brief
  refine ⟨_, _, _, Command.Analyze.run_of_asks asks held filled oneBreak,
    Command.Analyze.parse_report filled small listed, Shown.printed_toJson _ _, answer.1, answer.2,
    fun unnamed => ?_, fun language named => ?_,
    fun layout plain => readJson_submission plain code (readable_text hint) wanted⟩
  · have auto : (submitted code hint wanted).hint = none := by
      rw [Option.eq_none_iff_forall_ne_some]
      exact fun language found => unnamed language (hint_submitted_eq_some_iff.mp found)
    rw [auto]
    exact Shown.answered_analysisJson _ _
  · rw [hint_submitted_eq_some_iff.mpr named]
    have shown := Shown.answered_analysisJson (analyze code (some language)) (wanted.getD false)
    exact ⟨(congrArg Shown.language shown).trans (Shown.language_keeping _ _), shown⟩

def postedRequest (body : Bytes) : Request where
  method := "POST"
  path := "/analyze".toList
  query := none
  headers := [("content-type", "application/json".toList)]
  body := body

theorem postedRequest_body (body : Bytes) : (postedRequest body).body = body := rfl

theorem postedRequest_asks (body : Bytes) : (postedRequest body).asksAnalysis = true := by
  simp [postedRequest, Request.asksAnalysis, analyzePaths]

theorem postedRequest_typed (body : Bytes) :
    (((postedRequest body).header? "content-type").map isJsonType).getD false = true := by
  have json : isJsonType "application/json".toList = true := by decide
  simpa [postedRequest, Request.header?] using json

theorem postedRequest_fits {body : Bytes} {settings : Settings}
    (within : body.length ≤ settings.maxRequestSize) : (postedRequest body).Fits settings :=
  ⟨.inr (by simp [postedRequest, Request.header?]), within⟩

def assignment : Text := "x = 1".toList

def hintedRequest (hint : Text) : Request :=
  postedRequest (utf8 (Json.write .spaced 0
    (.obj (submission assignment ((some hint).map .text) (some true)))))

theorem hintedRequest_submits (hint : Text) :
    (hintedRequest hint).Submits assignment ((some hint).map .text) (some true) :=
  submits_of_written (postedRequest_asks _) (postedRequest_typed _) Json.Layout.isPlain_spaced
    (readable_text _) (postedRequest_body _)

def capitals : Text := "\tCPP ".toList

theorem commandAndService_agree_capitals :
    ∃ out printed answered,
      Command.Analyze.run ["--tokens".toList, "snippet".toList] []
          (fun _ => .file (utf8 assignment)) = .ok ⟨some 0, out, []⟩ ∧
        Json.parse out = .ok printed ∧
        Shown.printed printed = Shown.ofAnalysis (analyze assignment none) ∧
        (step emptySite .zero ⟨hintedRequest capitals, .standard, ""⟩).1.response.content =
          .json answered ∧
        Shown.answered answered = Shown.ofAnalysis (analyze assignment (some .cpp)) := by
  have loaded : Settings.load [] none = .ok emptySite.settings := by decide
  have filled : assignment ≠ [] := by decide
  have asks : Command.Analyze.Asks ["--tokens".toList, "snippet".toList] "snippet".toList true :=
    (Command.Analyze.asks_name (by decide)).2
  have held : Command.Analyze.source [] (fun _ => .file (utf8 assignment)) "snippet".toList =
      .file (utf8 assignment) := by decide
  have fits : (hintedRequest capitals).Fits emptySite.settings :=
    postedRequest_fits (by decide)
  have named : Names (some capitals) .cpp := ⟨by decide, capitals, rfl, by decide⟩
  obtain ⟨out, printed, answered, ran, parsed, listed, -, content, -, judged, -⟩ :=
    commandAndService_agree loaded filled (by decide) (by decide) asks held
      (hintedRequest_submits capitals) (by decide) fits .zero ""
  exact ⟨out, printed, answered, ran, parsed, listed, content, (judged .cpp named).2⟩

def AnswersHint (hint : Json) : Prop :=
  ∀ (site : Site) (counts : Telemetry) (now : String) (request : Request) (code : Text)
    (wanted : Option Bool), code ≠ [] → '\r' ∉ code →
      code.length ≤ site.settings.maxCodeLength → request.Submits code (some hint) wanted →
        request.Fits site.settings →
          (step site counts ⟨request, .standard, now⟩).1.response.status = 200

def halfHint : Json := .ofMarks [.half 0xD800 rfl]

def halfHinted : Request :=
  postedRequest (utf8 (Json.write .compact 0 (.obj (submission ['x'] (some halfHint) none))))

theorem halfHinted_submits : halfHinted.Submits ['x'] (some halfHint) none := by
  refine submits_of_written (postedRequest_asks _) (postedRequest_typed _)
    Json.Layout.isPlain_compact ?_ (postedRequest_body _)
  rintro - ⟨⟩
  exact Json.readable_ofMarks (.singleton _)

/-- White space around the name counts for the length of a hint, and half of a surrogate pair is no
character of one. -/
theorem not_answersHint :
    (¬ ∀ name language, Names (some name) language → AnswersHint (.text name)) ∧
      ¬ ∀ marks : List Mark, marks.length ≤ 50 → AnswersHint (.ofMarks marks) := by
  constructor
  next =>
    let farCpp : Text := List.replicate 48 ' ' ++ "cpp".toList
    intro claimed
    have named : Names (some farCpp) .cpp := ⟨by decide, farCpp, rfl, by decide⟩
    have answered := claimed farCpp .cpp named emptySite .zero "" (hintedRequest farCpp) assignment
      (some true) (by decide) (by decide) (by decide) (hintedRequest_submits farCpp)
      (postedRequest_fits (by decide))
    exact absurd answered (by decide +kernel)
  next =>
    intro claimed
    have answered := claimed [.half 0xD800 rfl] (by decide) emptySite .zero "" _ ['x'] none (by decide)
      (by decide) (by decide) halfHinted_submits (postedRequest_fits (by decide))
    exact absurd answered (by decide +kernel)

end Service

end SnippetGauge
