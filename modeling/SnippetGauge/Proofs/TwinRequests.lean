import SnippetGauge.Proofs.SameAnalysis

set_option autoImplicit false

namespace SnippetGauge

theorem Mark.eq_of_chars? {marks : List Mark} {text : List Char}
    (found : chars? marks = some text) : marks = text.map .char := by
  induction marks generalizing text with
  | nil =>
    cases found
    rfl
  | cons mark rest ih =>
    cases mark with
    | half unit _ => contradiction
    | char c =>
      obtain ⟨tail, later, rfl⟩ := Option.map_eq_some_iff.mp found
      rw [ih later, List.map_cons]

theorem Json.ofMarks_map_char (text : Text) : Json.ofMarks (text.map .char) = .text text := by
  simp only [Json.ofMarks, Mark.chars?_map_char, Json.text]

theorem Json.member?_cons_of_ne {key name : String} (other : key ≠ name) (value : Json)
    (members : List (String × Json)) :
    Json.member? ((name, value) :: members) key = Json.member? members key := by
  simp [Json.member?, other.symm]

namespace Service

open Text Encoding Checked

namespace AnalyzeRequest

theorem readCode_ofMarks (maxLength : Int) (marks : List Mark) :
    readCode maxLength (.ofMarks marks) =
      if marks.length > maxLength then fail .valueError else .ok (some marks) := by
  simp only [Json.ofMarks]
  cases found : Mark.chars? marks with
  | none => simp only [readCode, readMarks]
  | some text => simp only [readCode, readMarks, String.toList_ofList, Mark.eq_of_chars? found]

end AnalyzeRequest

/-- The engine works, or it has a fault that does not depend on what it is asked. -/
inductive Engine.IsInjected : Engine → Prop where
  | sound : IsInjected .standard
  | raising (kind message : String) : IsInjected fun _ _ => .raised kind message
  | losing : IsInjected fun _ _ => .lost

namespace Request

def declaredNumber? (request : Request) : Option Nat :=
  (request.header? "content-length").bind fun value =>
    if !value.isEmpty && value.all isDigit then
      some (ofDigits (value.map fun c => c.toNat - '0'.toNat))
    else none

def NumbersOver (request : Request) (limit : Int) : Prop :=
  ∃ number, request.declaredNumber? = some number ∧ limit < number

end Request

/-- Two bodies that are alike but for the code: objects with the same other members, or values
that are beyond what the reader takes. -/
inductive DifferInCode (maxLength : Int) (first second : Bytes) : Prop where
  | unread (refused : readJson first = .error .unreadable)
      (refusedOther : readJson second = .error .unreadable)
  | objects (members other : Members) (code changed : List Mark)
      (read : readJson first = .ok (.obj members)) (readOther : readJson second = .ok (.obj other))
      (holds : Json.member? members "code" = some (.ofMarks code))
      (holdsOther : Json.member? other "code" = some (.ofMarks changed))
      (rest : ∀ key, key ≠ "code" → Json.member? other key = Json.member? members key)
      (filled : code = [] ↔ changed = [])
      (within : code.length ≤ maxLength ↔ changed.length ≤ maxLength)

/-- Two requests for an analysis that submit different code to one engine, in all else alike. -/
structure Twins (settings : Settings) (first second : Visit) : Prop where
  asks : first.request.asksAnalysis = true
  method : second.request.method = first.request.method
  path : second.request.path = first.request.path
  headers : ∀ name, name ≠ "content-length" →
    second.request.header? name = first.request.header? name
  sameSide : first.request.NumbersOver settings.maxRequestSize ↔
    second.request.NumbersOver settings.maxRequestSize
  bodies : DifferInCode settings.maxCodeLength first.request.body second.request.body
  engine : second.engine = first.engine
  injected : first.engine.IsInjected

theorem submission_differInCode {layout : Json.Layout} (plain : layout.IsPlain) {maxLength : Int}
    {code changed : Text} (hint : Option Text) (wanted : Option Bool)
    (filled : code = [] ↔ changed = [])
    (within : code.length ≤ maxLength ↔ changed.length ≤ maxLength) :
    DifferInCode maxLength
      (utf8 (Json.write layout 0 (.obj (submission code (hint.map .text) wanted))))
      (utf8 (Json.write layout 0 (.obj (submission changed (hint.map .text) wanted)))) := by
  have holds (code : Text) : Json.member? (submission code (hint.map .text) wanted) "code" =
      some (.ofMarks (code.map .char)) := by
    rw [Json.ofMarks_map_char]
    cases hint <;> cases wanted <;> simp [submission, Json.member?]
  refine .objects _ _ (code.map .char) (changed.map .char)
    (readJson_submission plain code (readable_text hint) wanted)
    (readJson_submission plain changed (readable_text hint) wanted)
    (holds code) (holds changed) (fun key other => ?_) (by simpa using filled)
    (by simpa using within)
  simp only [submission, Json.member?_cons_of_ne other]

def postedVisit (body : Bytes) : Visit := ⟨postedRequest body, .standard, ""⟩

theorem postedVisit_twins {settings : Settings} {body changed : Bytes}
    (bodies : DifferInCode settings.maxCodeLength body changed) :
    Twins settings (postedVisit body) (postedVisit changed) where
  asks := postedRequest_asks body
  method := rfl
  path := rfl
  headers _ _ := rfl
  sameSide := Iff.rfl
  bodies := bodies
  engine := rfl
  injected := .sound

inductive ReadAlike : Except BodyError AnalyzeRequest → Except BodyError AnalyzeRequest → Prop where
  | refused (problem : BodyError) : ReadAlike (.error problem) (.error problem)
  | read (code changed : List Mark) (language : String) (includeTokens : Bool)
      (filled : code = [] ↔ changed = []) :
      ReadAlike (.ok ⟨some code, language, includeTokens⟩)
        (.ok ⟨some changed, language, includeTokens⟩)

theorem optional_code {maxLength : Int} {members : Members} {code : List Mark}
    (holds : Json.member? members "code" = some (.ofMarks code)) :
    members.optional "code" none (AnalyzeRequest.readCode maxLength) =
      if code.length > maxLength then (fail .valueError).under (.field "code")
      else .ok (some code) := by
  simp only [Members.optional, holds, toField, AnalyzeRequest.readCode_ofMarks]
  split <;> rfl

theorem ofMembers_readAlike {maxLength : Int} {members other : Members} {code changed : List Mark}
    (holds : Json.member? members "code" = some (.ofMarks code))
    (holdsOther : Json.member? other "code" = some (.ofMarks changed))
    (rest : ∀ key, key ≠ "code" → Json.member? other key = Json.member? members key)
    (filled : code = [] ↔ changed = [])
    (within : code.length ≤ maxLength ↔ changed.length ≤ maxLength) :
    ReadAlike (((AnalyzeRequest.ofMembers maxLength members).under (.field "body")).mapError .invalid)
      (((AnalyzeRequest.ofMembers maxLength other).under (.field "body")).mapError .invalid) := by
  have language : other.optional "language" "auto" AnalyzeRequest.readLanguage =
      members.optional "language" "auto" AnalyzeRequest.readLanguage := by
    simp only [Members.optional, rest "language" (by decide)]
  have tokens : other.optional "includeTokens" false Scalar.readBool =
      members.optional "includeTokens" false Scalar.readBool := by
    simp only [Members.optional, rest "includeTokens" (by decide)]
  simp only [AnalyzeRequest.ofMembers, optional_code holds, optional_code holdsOther, language,
    tokens]
  -- What the other members give is the same for both, whatever it is.
  generalize both (members.optional "language" "auto" AnalyzeRequest.readLanguage)
    (members.optional "includeTokens" false Scalar.readBool) = others
  by_cases fits : code.length ≤ maxLength
  · have fitsOther := within.mp fits
    simp only [gt_iff_lt, not_lt.mpr fits, not_lt.mpr fitsOther, if_false]
    rcases others with found | ⟨language, includeTokens⟩
    · exact .refused _
    · exact .read code changed language includeTokens filled
  · have exceeds := not_le.mp fits
    have exceedsOther := not_le.mp (mt within.mpr fits)
    simp only [gt_iff_lt, exceeds, exceedsOther, if_true]
    rcases others with found | ⟨language, includeTokens⟩
    · exact .refused _
    · exact .refused _

section

variable {settings : Settings} {site : Site} {first second : Visit}

theorem Twins.asksSecond (twins : Twins settings first second) :
    second.request.asksAnalysis = true := by
  have asks := twins.asks
  rwa [Request.asksAnalysis, ← twins.method, ← twins.path] at asks

theorem Twins.readAlike (twins : Twins settings first second) :
    ReadAlike (readAnalyzeRequest settings.maxCodeLength first.request)
      (readAnalyzeRequest settings.maxCodeLength second.request) := by
  have typed := twins.headers "content-type" (by decide)
  simp only [readAnalyzeRequest, readValue, typed]
  cases twins.bodies with
  | unread refused refusedOther =>
    have filled := isEmpty_body refused (by simp [BodyError.ofProblem])
    have filledOther := isEmpty_body refusedOther (by simp [BodyError.ofProblem])
    simp only [filled, filledOther, refused, refusedOther, Bool.false_eq_true, if_false]
    cases ((first.request.header? "content-type").map isJsonType).getD false
    · exact .refused _
    · exact .refused _
  | objects members other code changed read readOther holds holdsOther rest filled within =>
    have filledBody := isEmpty_body read (by simp)
    have filledOther := isEmpty_body readOther (by simp)
    simp only [filledBody, filledOther, read, readOther, Bool.false_eq_true, if_false]
    cases ((first.request.header? "content-type").map isJsonType).getD false
    · exact .refused _
    · exact ofMembers_readAlike holds holdsOther rest filled within

theorem Twins.handled (counts : Telemetry) (twins : Twins site.settings first second) :
    handleAnalyze ⟨site, first.engine, first.now, counts⟩ first.request =
        handleAnalyze ⟨site, second.engine, second.now, counts⟩ second.request ∨
    ((finished? site.settings first.engine first.request).isSome = true ∧
      (finished? site.settings second.engine second.request).isSome = true) := by
  have alike := twins.readAlike
  have message (found : List Violation) :
      validationMessage second.request found = validationMessage first.request found := by
    unfold validationMessage
    rw [twins.method, twins.path]
  have injected := twins.injected
  have hinted (visit : Visit) (parsed : AnalyzeRequest)
      (read : readAnalyzeRequest site.settings.maxCodeLength visit.request = .ok parsed) :=
    languageHint_of_read read
  have hintedFirst := hinted first
  have hintedSecond := hinted second
  simp only [finished?, handleAnalyze, twins.engine]
  generalize first.engine = engine at injected ⊢
  generalize readAnalyzeRequest site.settings.maxCodeLength first.request = read
    at alike hintedFirst
  generalize readAnalyzeRequest site.settings.maxCodeLength second.request = readOther
    at alike hintedSecond
  cases alike with
  | refused problem =>
    cases problem with
    | unreadable => exact .inl rfl
    | invalid found => exact .inl (by simp only [invalidRequest, message])
  | read code changed hint includeTokens filled =>
    cases code with
    | nil =>
      obtain rfl := filled.mp rfl
      exact .inl rfl
    | cons mark rest =>
      cases changed with
      | nil => exact absurd (filled.mpr rfl) (by simp)
      | cons other later =>
        -- What a fault says of one code it says of any other.
        cases injected with
        | sound =>
          obtain ⟨_, _, asked⟩ := ask_standard (hintedFirst _ rfl) (mark :: rest)
          obtain ⟨_, _, askedOther⟩ := ask_standard (hintedSecond _ rfl) (other :: later)
          exact .inr ⟨by simp only [asked, Option.isSome_some],
            by simp only [askedOther, Option.isSome_some]⟩
        | raising kind message => exact .inl rfl
        | losing => exact .inl rfl

end

section

variable {request : Request} {settings : Settings} {first second : Visit}

theorem declaredLength?_of_readable (readable : request.HasReadableLength) :
    declaredLength? request = request.declaredNumber?.map .ok := by
  simp only [declaredLength?, Request.declaredNumber?]
  cases found : request.header? "content-length" with
  | none => rfl
  | some value =>
    rcases readable value found with other | ⟨digits, short⟩
    · have unread : value.all isDigit = false := by
        rw [Bool.eq_false_iff] at other ⊢
        exact fun digits => other (all_isHeaderDigit digits)
      simp only [other, unread, Bool.and_false, Bool.false_eq_true, if_false, Option.bind_some,
        Option.map_none]
    · simp only [all_isHeaderDigit digits, digits, readLength_of_digits digits short, Bool.and_true,
        Option.bind_some]
      cases value.isEmpty <;> rfl

theorem declaresOver_iff (readable : request.HasReadableLength) (limit : Int) :
    request.DeclaresOver limit ↔ request.NumbersOver limit := by
  simp [Request.DeclaresOver, Request.NumbersOver, declaredLength?_of_readable readable]

theorem Twins.declaresOver_iff (twins : Twins settings first second)
    (readable : first.request.HasReadableLength)
    (readableOther : second.request.HasReadableLength) :
    first.request.DeclaresOver settings.maxRequestSize ↔
      second.request.DeclaresOver settings.maxRequestSize := by
  rw [Service.declaresOver_iff readable, twins.sameSide, Service.declaresOver_iff readableOther]

theorem postedRequest_readable (body : Bytes) : (postedRequest body).HasReadableLength := by
  intro value found
  simp [postedRequest, Request.header?] at found

end

end Service

end SnippetGauge
