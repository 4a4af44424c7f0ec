import SnippetGauge.Proofs.AnalysisExtent
import SnippetGauge.Proofs.EncodedText
import SnippetGauge.Proofs.LengthHeader
import SnippetGauge.Proofs.SpelledTokens

set_option autoImplicit false

namespace SnippetGauge.Service

open Text Encoding Checked

def submission (code : Text) (hint : Option Json) (wanted : Option Bool) : List (String × Json) :=
  ("code", .text code) :: ((hint.map fun name => ("language", name)).toList ++
    (wanted.map fun tokens => ("includeTokens", .bool tokens)).toList)

/-- Whatever form the body has, it reads as an object with these members. -/
structure Request.Submits (request : Request) (code : Text) (hint : Option Json)
    (wanted : Option Bool) : Prop where
  asks : request.asksAnalysis = true
  typed : ((request.header? "content-type").map isJsonType).getD false = true
  read : ∃ members, readJson request.body = .ok (.obj members) ∧
    Json.member? members "code" = some (.text code) ∧
    Json.member? members "language" = hint ∧
    Json.member? members "includeTokens" = wanted.map .bool

theorem readJson_utf8 {b : Char} (rest : Text) (ascii : 0 < b.toNat ∧ b.toNat < 128) :
    readJson (utf8 ('\x7b' :: b :: rest)) =
      (Json.parse ('\x7b' :: b :: rest)).mapError .ofParse := by
  rw [readJson, detectedMarks?_utf8 rest (by decide) ascii]
  rfl

theorem readJson_write {layout : Json.Layout} (plain : layout.IsPlain) {member : String × Json}
    {members : List (String × Json)}
    (readable : Json.Readable Json.maxDepth (.obj (member :: members))) :
    readJson (utf8 (Json.write layout 0 (.obj (member :: members)))) =
      .ok (.obj (member :: members)) := by
  have parsed := Json.parse_write plain readable [] (by simp)
  obtain ⟨b, more, written, second⟩ : ∃ b more,
      Json.write layout 0 (.obj (member :: members)) = '\x7b' :: b :: more ∧
        (b = '\n' ∨ b = '"') := by
    simp only [Json.write, Json.writeMembers_cons, Json.bracketed_cons]
    unfold Json.Layout.break
    cases layout.step with
    | none => exact ⟨_, _, rfl, .inr rfl⟩
    | some => exact ⟨_, _, rfl, .inl rfl⟩
  have ascii : 0 < b.toNat ∧ b.toNat < 128 := by rcases second with rfl | rfl <;> decide
  rw [List.append_nil, written] at parsed
  rw [written, readJson_utf8 more ascii, parsed]
  rfl

theorem readJson_submission {layout : Json.Layout} (plain : layout.IsPlain) (code : Text)
    {hint : Option Json} (readable : ∀ name ∈ hint, Json.Readable 959 name) (wanted : Option Bool) :
    readJson (utf8 (Json.write layout 0 (.obj (submission code hint wanted)))) =
      .ok (.obj (submission code hint wanted)) := by
  have text : Json.Readable 959 (.text code) := .str _
  have flag (value : Bool) : Json.Readable 959 (.bool value) := .bool value
  have each : ∀ member ∈ submission code hint wanted, Json.Readable 959 member.2 := by
    cases hint <;> cases wanted <;> simp [submission, text, flag, readable]
  exact readJson_write plain (.obj each)

theorem readable_text (hint : Option Text) : ∀ name ∈ hint.map Json.text, Json.Readable 959 name := by
  intro name inside
  obtain ⟨text, -, rfl⟩ := Option.map_eq_some_iff.mp inside
  exact .str _

variable {request : Request} {code : Text} {hint : Option Text} {wanted : Option Bool}

theorem submits_of_written {hint : Option Json} (asks : request.asksAnalysis = true)
    (typed : ((request.header? "content-type").map isJsonType).getD false = true)
    {layout : Json.Layout} (plain : layout.IsPlain)
    (readable : ∀ name ∈ hint, Json.Readable 959 name)
    (body : request.body = utf8 (Json.write layout 0 (.obj (submission code hint wanted)))) :
    request.Submits code hint wanted where
  asks := asks
  typed := typed
  read := by
    refine ⟨_, by rw [body]; exact readJson_submission plain code readable wanted, ?_⟩
    cases hint <;> cases wanted <;> simp [submission, Json.member?]

theorem isEmpty_body {found : Except BodyError Json} (read : readJson request.body = found)
    (other : found ≠ .error (.ofProblem [.index 0] .jsonInvalid)) :
    request.body.isEmpty = false := by
  cases body : request.body with
  | nil =>
    rw [body] at read
    exact absurd read.symm other
  | cons => rfl

def submitted (code : Text) (hint : Option Text) (wanted : Option Bool) : AnalyzeRequest where
  code := some (code.map .char)
  language := (hint.map AnalyzeRequest.normalized).getD "auto"
  includeTokens := wanted.getD false

theorem readAnalyzeRequest_of_submits (submits : request.Submits code (hint.map .text) wanted)
    {maxLength : Int} (short : code.length ≤ maxLength)
    (brief : ∀ name, hint = some name → name.length ≤ AnalyzeRequest.maxHintLength) :
    readAnalyzeRequest maxLength request = .ok (submitted code hint wanted) := by
  obtain ⟨members, read, codeMember, hintMember, tokensMember⟩ := submits.read
  have filled := isEmpty_body read (by simp)
  have value : readValue request = .ok (.obj members) := by
    simp [readValue, filled, submits.typed, read]
  have codeRead : Members.optional members "code" none (AnalyzeRequest.readCode maxLength) =
      .ok (some (code.map .char)) := by
    have fits : ¬ maxLength < code.length := by omega
    simp [Members.optional, codeMember, toField, under, AnalyzeRequest.readCode, Json.text,
      AnalyzeRequest.readMarks, fits]
  have hintRead : Members.optional members "language" "auto" AnalyzeRequest.readLanguage =
      .ok ((hint.map AnalyzeRequest.normalized).getD "auto") := by
    cases hint with
    | none => simp [Members.optional, hintMember, toField, under]
    | some name =>
      have fits : ¬ AnalyzeRequest.maxHintLength < name.length := by
        have := brief name rfl
        omega
      simp [Members.optional, hintMember, toField, under, Json.text, AnalyzeRequest.readLanguage,
        fits]
  have tokensRead : Members.optional members "includeTokens" false Scalar.readBool =
      .ok (wanted.getD false) := by
    cases wanted <;> simp [Members.optional, tokensMember, toField, under, Scalar.readBool]
  simp [readAnalyzeRequest, value, AnalyzeRequest.ofMembers, codeRead, hintRead, tokensRead, both,
    Except.map, Checked.under, Except.mapError, submitted]

theorem ask_standard_of_chars (code : Text) {parsed : AnalyzeRequest}
    (hinted : parsed.languageHint = .ok parsed.hint) :
    let analysis := analyze code parsed.hint
    Engine.standard.ask (code.map .char) parsed =
      .done analysis (analysis.tokens.map fun token => token.value.map .char) := by
  have spelled := spelledTokens_map_char code (analyze code parsed.hint).language
  simp only [Engine.ask, hinted, Engine.standard, Mark.carries_near.map_char, spelled, tokenTexts,
    List.map_map]
  rfl

theorem handleAnalyze_of_submits (submits : request.Submits code (hint.map .text) wanted)
    (context : Context) (standard : context.engine = .standard) (filled : code ≠ [])
    (short : code.length ≤ context.site.settings.maxCodeLength)
    (brief : ∀ name, hint = some name → name.length ≤ AnalyzeRequest.maxHintLength) :
    let analysis := analyze code (submitted code hint wanted).hint
    handleAnalyze context request =
      ⟨.ok (.ofJson 200 (analysisJson analysis (wanted.getD false))), [],
        [.accepted, .analyzed analysis.language]⟩ := by
  intro analysis
  have read := readAnalyzeRequest_of_submits submits short brief
  have asked := ask_standard_of_chars code (languageHint_of_read read)
  have whole : showsHalf (submitted code hint wanted)
      (analysis.tokens.map fun token => token.value.map .char) = false := by
    simp [showsHalf, Mark.isChar, Mark.char?]
  have shown := shownAnalysis_of_not_showsHalf analysis whole
  obtain ⟨c, rest, rfl⟩ := List.exists_cons_of_ne_nil filled
  have holds : (submitted (c :: rest) hint wanted).code = some (.char c :: rest.map .char) := rfl
  simp only [handleAnalyze, read, analyzeRequest, holds, analyzeCode, standard]
  rw [List.map_cons] at asked
  simp only [asked]
  exact congrArg (Outcome.mk · [] _) shown

theorem answer_of_submits (submits : request.Submits code (hint.map .text) wanted)
    (context : Context) (standard : context.engine = .standard) (readable : request.HasReadableLength)
    (within : ¬ request.DeclaresOver context.site.settings.maxRequestSize) (filled : code ≠ [])
    (short : code.length ≤ context.site.settings.maxCodeLength)
    (brief : ∀ name, hint = some name → name.length ≤ AnalyzeRequest.maxHintLength) :
    (answer context request).response.status = 200 ∧
      (answer context request).response.content =
        .json (analysisJson (analyze code (submitted code hint wanted).hint) (wanted.getD false)) := by
  have handled := handleAnalyze_of_submits submits context standard filled short brief
  rw [answer_of_fitting readable within, answerUnlimited_of_asksAnalysis submits.asks]
  simp [handled, Response.withHeaders, Response.ofJson]

theorem ofName?_eq_some_iff {name : String} {language : Language} :
    Language.ofName? name = some language ↔ language.name = name := by
  constructor
  · intro found
    simpa using List.find?_some found
  · rintro rfl
    exact Language.ofName?_name language

/-- The hint is the name of a language, in any letter case and with white space around it. -/
def Names (hint : Option Text) (language : Language) : Prop :=
  language ≠ .unidentified ∧ ∃ name, hint = some name ∧ lower (trim name) = language.name.toList

theorem AnalyzeRequest.hint_eq_some_iff {request : AnalyzeRequest} {language : Language} :
    request.hint = some language ↔ request.language = language.name := by
  have other : "auto" ≠ language.name := by cases language <;> decide
  simp only [hint, languageHint]
  split_ifs with auto
  next => simp [beq_iff_eq.mp auto, other]
  next =>
    cases found : Language.ofName? request.language with
    | none =>
      have unnamed : request.language ≠ language.name := by
        intro same
        rw [same, Language.ofName?_name] at found
        contradiction
      simp [unnamed]
    | some named =>
      rw [← ofName?_eq_some_iff.mp found]
      cases named <;> cases language <;> simp [Language.name]

theorem AnalyzeRequest.normalized_eq_name_iff {name : Text} {language : Language} :
    normalized name = language.name ↔
      language ≠ .unidentified ∧ lower (trim name) = language.name.toList := by
  have spelled : String.ofList (lower (trim name)) = language.name ↔
      lower (trim name) = language.name.toList := by
    rw [← String.toList_inj, String.toList_ofList]
  simp only [normalized, ← spelled]
  split
  next listed =>
    rw [iff_and_self]
    rintro same rfl
    rw [same] at listed
    exact absurd listed (by decide)
  next unlisted =>
    have other : "auto" ≠ language.name := by cases language <;> decide
    refine ⟨fun same => absurd same other, ?_⟩
    rintro ⟨known, same⟩
    rw [same] at unlisted
    cases language with
    | unidentified => contradiction
    | cpp | java | python => exact absurd (by decide) unlisted

theorem hint_submitted_eq_some_iff {language : Language} :
    (submitted code hint wanted).hint = some language ↔ Names hint language := by
  rw [AnalyzeRequest.hint_eq_some_iff]
  cases hint with
  | none => cases language <;> simp [submitted, Names, Language.name]
  | some name => simp [submitted, Names, AnalyzeRequest.normalized_eq_name_iff]

end SnippetGauge.Service
