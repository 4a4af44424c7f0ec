import SnippetGauge.Language
import SnippetGauge.Record
import SnippetGauge.Scalar

set_option autoImplicit false

namespace SnippetGauge.Service

open Text Checked Scalar

structure AnalyzeRequest where
  code : Option (List Mark)
  language : String
  includeTokens : Bool
  deriving DecidableEq, Repr

namespace AnalyzeRequest

def languageHints : List String :=
  "auto" :: (Language.all.filter (· != .unidentified)).map Language.name

def normalized (name : Text) : String :=
  let hint := String.ofList (lower (trim name))
  if languageHints.contains hint then hint else "auto"

def languageHint (request : AnalyzeRequest) : Except String (Option Language) :=
  if request.language == "auto" then .ok none
  else
    match Language.ofName? request.language with
    | some language => .ok (some language)
    | none => .error ("'" ++ request.language ++ "' is not a valid Language")

def hint (request : AnalyzeRequest) : Option Language :=
  match request.languageHint with
  | .ok hint => hint
  | .error _ => none

def readMarks : Json → Checked (List Mark)
  | .str text => .ok (text.toList.map .char)
  | .brokenStr marks => .ok marks
  | _ => fail .stringType

def readCode (maxLength : Int) (value : Json) : Checked (Option (List Mark)) :=
  match value with
  | .null => .ok none
  | _ =>
    match readMarks value with
    | .error found => .error found
    | .ok code => if code.length > maxLength then fail .valueError else .ok (some code)

def maxHintLength : Nat := 50

def readLanguage : Json → Checked String
  | .str name =>
    -- The length is that of the name as it is sent.
    if name.length > maxHintLength then fail .stringTooLong else .ok (normalized name.toList)
  | .brokenStr _ => fail .stringUnicode
  | _ => fail .stringType

def ofMembers (maxLength : Int) (members : Members) : Checked AnalyzeRequest :=
  (both (members.optional "code" none (readCode maxLength)) <|
    both (members.optional "language" "auto" readLanguage) <|
      members.optional "includeTokens" false readBool).map
    fun (code, language, includeTokens) => ⟨code, language, includeTokens⟩

theorem normalized_mem (name : Text) : normalized name ∈ languageHints := by
  simp only [normalized]
  split
  next listed => exact List.contains_iff_mem.mp listed
  next => decide

theorem languageHint_of_mem {request : AnalyzeRequest} (listed : request.language ∈ languageHints) :
    request.languageHint = .ok request.hint := by
  obtain ⟨code, language, includeTokens⟩ := request
  have each : ∀ name ∈ languageHints,
      languageHint ⟨code, name, includeTokens⟩ = .ok (hint ⟨code, name, includeTokens⟩) := by
    simp [languageHints, Language.all, Language.name, languageHint, hint, Language.ofName?]
  exact each language listed

section

variable {maxLength : Int} {members : Members} {request : AnalyzeRequest}

theorem optional_language (read : ofMembers maxLength members = .ok request) :
    members.optional "language" "auto" readLanguage = .ok request.language := by
  unfold ofMembers at read
  cases parts : both (members.optional "code" none (readCode maxLength))
      (both (members.optional "language" "auto" readLanguage)
        (members.optional "includeTokens" false readBool)) with
  | error found =>
    rw [parts] at read
    cases read
  | ok values =>
    rw [parts] at read
    obtain rfl := Except.ok.inj read
    exact (both_eq_ok_iff.mp (both_eq_ok_iff.mp parts).2).1

theorem language_of_ofMembers (read : ofMembers maxLength members = .ok request) :
    (Json.member? members "language" = none ∧ request.language = "auto") ∨
      ∃ name, Json.member? members "language" = some (.str name) ∧
        request.language = normalized name.toList := by
  have stored := optional_language read
  unfold Members.optional at stored
  cases stands : Json.member? members "language" with
  | none =>
    rw [stands] at stored
    exact .inl ⟨rfl, (Except.ok.inj stored).symm⟩
  | some value =>
    rw [stands] at stored
    cases value with
    | str name =>
      rw [toField, readLanguage] at stored
      split at stored
      next => cases stored
      next => exact .inr ⟨name, rfl, (Except.ok.inj stored).symm⟩
    | _ => cases stored

theorem languageHint_of_ofMembers (read : ofMembers maxLength members = .ok request) :
    request.languageHint = .ok request.hint := by
  apply languageHint_of_mem
  rcases language_of_ofMembers read with ⟨-, auto⟩ | ⟨name, -, stored⟩
  next => simp [auto, languageHints]
  next => exact stored ▸ normalized_mem name.toList

end

def toJson (request : AnalyzeRequest) : Json :=
  .obj [("code", (request.code.map Json.ofMarks).getD .null),
    ("language", .str request.language), ("includeTokens", .bool request.includeTokens)]

end AnalyzeRequest

end SnippetGauge.Service
