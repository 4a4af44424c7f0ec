import SnippetGauge.Command.Analyze
import SnippetGauge.Proofs.AnalysisExtent
import SnippetGauge.Proofs.EncodedText

set_option autoImplicit false

namespace SnippetGauge.Command.Analyze

open Text Encoding Options

def Asks (arguments : List Text) (name : Text) (withTokens : Bool) : Prop :=
  ∃ progress, Options.parse program arguments = .parsed progress ∧
    progress.operand = some name ∧ progress.has "--tokens" = withTokens

def source (stdin : Bytes) (files : Files) (name : Text) : FileEntry :=
  if name == ['-'] then .file stdin else files name

theorem asks_name {name : Text} (operand : name.head? ≠ some '-') :
    Asks [name] name false ∧ Asks ["--tokens".toList, name] name true := by
  have undivided : name ≠ ['-', '-'] := by rintro rfl; exact operand rfl
  have classified : classify program name = .ok (.operand name) := by
    have plain : startsWith ['-'] name = false := by
      cases name with
      | nil => rfl
      | cons c rest =>
        have other : '-' ≠ c := by rintro rfl; exact operand rfl
        simp [startsWith, dropPrefix?, other]
    simp [classify, plain]
  have one : items program [name] = .ok [.operand name] := by
    simp [items, undivided, classified, bind, Except.bind, pure, Except.pure]
  constructor
  · refine ⟨⟨some name, [], []⟩, ?_, rfl, rfl⟩
    unfold parse
    rw [one]
    rfl
  · obtain ⟨spec, flag, plain, named⟩ : ∃ spec,
        classify program "--tokens".toList =
          .ok (.option "--tokens".toList (some ⟨spec, "--tokens", none⟩)) ∧
        spec.arity = .flag ∧ spec.names.contains "--tokens" = true := ⟨_, rfl, rfl, by decide⟩
    have two : items program ["--tokens".toList, name] =
        .ok [.option "--tokens".toList (some ⟨spec, "--tokens", none⟩), .operand name] := by
      rw [items, one, flag]
      rfl
    refine ⟨⟨some name, [⟨spec, none⟩], []⟩, ?_, rfl, by simpa [Progress.has] using named⟩
    unfold parse
    rw [two]
    simp [Options.read, unpack, unpackJoined, takesArgument, take, plain]
    rfl

theorem unifyBreaks_of_notMem {text : Text} (oneBreak : '\r' ∉ text) : unifyBreaks text = text := by
  induction text with
  | nil => rfl
  | cons c rest ih =>
    simp only [List.mem_cons, not_or] at oneBreak
    have other : c ≠ '\r' := Ne.symm oneBreak.1
    rw [unifyBreaks]
    · rw [ih oneBreak.2]
    all_goals simp [other]

theorem run_of_asks {arguments : List Text} {name : Text} {withTokens : Bool}
    (asks : Asks arguments name withTokens) {stdin : Bytes} {files : Files} {code : Text}
    (held : source stdin files name = .file (utf8 code)) (filled : code ≠ [])
    (oneBreak : '\r' ∉ code) :
    run arguments stdin files = .ok ⟨some 0, report code withTokens, []⟩ := by
  obtain ⟨progress, parsed, operand, has⟩ := asks
  unfold source at held
  have read : readSource stdin files name = .ok code := by
    simp only [readSource, held, utf8Text?_utf8, unifyBreaks_of_notMem oneBreak]
  have some : code.isEmpty = false := by simpa using filled
  simp only [run, parsed, operand, Option.getD_some, read, has, Except.map, onSource, some]
  rfl

theorem parse_report {code : Text} (filled : code ≠ [])
    (small : code.length < 10 ^ Json.maxIntegerDigits) (withTokens : Bool) :
    Json.parse (report code withTokens) = .ok ((analyze code none).toJson withTokens) :=
  have readable : Json.Readable (957 + 3) ((analyze code none).toJson withTokens) :=
    readable_analyze filled small none withTokens
  Json.parse_write Json.Layout.isPlain_indented readable ['\n'] (by simp [Json.isSpace])

end SnippetGauge.Command.Analyze
