import SnippetGauge.Files
import SnippetGauge.Json.Print
import SnippetGauge.Options.Help
import SnippetGauge.Report
import SnippetGauge.Text.Line

set_option autoImplicit false

namespace SnippetGauge.Command

open Text Encoding

/-- `code` is absent when the program goes on to serve. -/
structure Exit where
  code : Option Nat
  stdout : Text
  stderr : Text
  deriving DecidableEq, Repr

inductive ReadFailure where
  | notFound
  | notDirectory
  | isDirectory
  | undecodable
  deriving DecidableEq, Repr

namespace Analyze

def program : ProgramSpec where
  name := "codescope"
  description := "Heuristic code analysis"
  options := [⟨["-h", "--help"], .help, "show this help message and exit"⟩,
    ⟨["--tokens"], .flag, "Include the token list"⟩]
  operand := some ⟨"file", "Source file to analyze, or '-' for stdin"⟩

def readSource (stdin : Bytes) (files : Files) (name : Text) : Except ReadFailure Text :=
  let found : FileEntry := if name == ['-'] then .file stdin else files name
  match found with
  | .absent => .error .notFound
  | .blocked => .error .notDirectory
  | .directory => .error .isDirectory
  | .file content =>
    match utf8Text? content with
    | some text => .ok (unifyBreaks text)
    | none => .error .undecodable

def report (code : Text) (withTokens : Bool) : Text :=
  ((analyze code none).toJson withTokens).write .indented 0 ++ ['\n']

def onSource (code : Text) (withTokens : Bool) : Exit :=
  if code.isEmpty then ⟨some 1, [], "ERROR: No code provided\n".toList⟩
  else ⟨some 0, report code withTokens, []⟩

def operand? (arguments : List Text) : Option Text :=
  match Options.parse program arguments with
  | .parsed progress => progress.operand
  | _ => none

def run (arguments : List Text) (stdin : Bytes) (files : Files) : Except ReadFailure Exit :=
  match Options.parse program arguments with
  | .help => .ok ⟨some 0, Options.help program, []⟩
  | .failed error => .ok ⟨some 2, [], Options.failure program error⟩
  | .parsed progress =>
    (readSource stdin files (progress.operand.getD [])).map (onSource · (progress.has "--tokens"))

end Analyze

end SnippetGauge.Command
