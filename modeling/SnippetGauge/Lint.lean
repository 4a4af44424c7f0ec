import SnippetGauge.Comment
import SnippetGauge.Indentation
import SnippetGauge.Lint.Cpp
import SnippetGauge.Lint.Java
import SnippetGauge.Lint.Python

set_option autoImplicit false

namespace SnippetGauge

open Text

namespace Lint

def rules? : Language → Option RuleSet
  | .cpp => some Cpp.rules
  | .java => some Java.rules
  | .python => some Python.rules
  | .unidentified => none

namespace RuleSet

def skipsLine (rules : RuleSet) (line : Text) : Bool :=
  line.isEmpty || startsWithAny (rules.skips.map String.toList) line

def checkLine (rules : RuleSet) (number : Nat) (line : Text) : List Finding :=
  (rules.lineChecks.filter (·.applies line)).map (·.advice.atLine number)

def trackLine (rules : RuleSet) (state : Indentation) (number : Nat) (line : Text) :
    List Finding × Indentation :=
  if rules.tracksIndentation then
    match state.feed number (trimEnd line) with
    | (.found finding, next) => ([finding], next)
    | (_, next) => ([], next)
  else ([], state)

def lintLines (rules : RuleSet) : Indentation → Nat → List Text → List Finding
  | _, _, [] => []
  | state, number, line :: later =>
    -- A skipped line is counted and leaves the indentation as it is.
    if rules.skipsLine (trim line) then rules.lintLines state (number + 1) later
    else
      let (placement, next) := rules.trackLine state number line
      placement ++ rules.checkLine number (trim line) ++
        rules.lintLines next (number + 1) later

def lineFindings (rules : RuleSet) (code : Text) : List Finding :=
  rules.lintLines .start 1 (lines code)

def fileFindings (rules : RuleSet) (code : Text) : List Finding :=
  (rules.fileChecks.filterMap (·.advise code)).map (·.atLine 1)

end RuleSet

end Lint

def lint (source : Text) (language : Language) : List Finding :=
  match Lint.rules? language with
  | none => []
  | some rules =>
    let code := stripComments source language
    rules.lineFindings code ++ rules.fileFindings code

end SnippetGauge
