import SnippetGauge.Text.Search

set_option autoImplicit false

namespace SnippetGauge

structure Advice where
  message : String
  suggestion : String
  deriving DecidableEq, Repr

/-- Lines are counted from one; what concerns the whole file is reported on line one. -/
structure Finding where
  line : Nat
  message : String
  suggestion : String
  deriving DecidableEq, Repr

def Advice.atLine (advice : Advice) (line : Nat) : Finding :=
  ⟨line, advice.message, advice.suggestion⟩

namespace Lint

open Text

structure LineCheck where
  advice : Advice
  applies : Text → Bool

structure FileCheck where
  advise : Text → Option Advice

structure RuleSet where
  skips : List String
  lineChecks : List LineCheck
  fileChecks : List FileCheck
  tracksIndentation : Bool

def FileCheck.when (applies : Text → Bool) (advice : Advice) : FileCheck :=
  ⟨fun code => if applies code then some advice else none⟩

def mentions (needle : String) (text : Text) : Bool := occursIn needle.toList text

def endsWithAny (marks : List Char) (line : Text) : Bool :=
  match line.getLast? with
  | some c => marks.contains c
  | none => false

def endsStatement (line : Text) : Bool := endsWithAny [';', '\x7b', '\x7d', ':'] line

def missingSemicolon : Advice where
  message := "Possible missing semicolon"
  suggestion := "Add a semicolon at the end of this line"

end Lint

end SnippetGauge
