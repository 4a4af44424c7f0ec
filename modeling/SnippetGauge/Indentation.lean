import SnippetGauge.Lint.Rule
import SnippetGauge.Text.Line

set_option autoImplicit false

namespace SnippetGauge

open Text

/-- The widths at which open blocks expect their lines, innermost first. -/
structure Indentation where
  levels : List Nat
  deriving DecidableEq, Repr

namespace Indentation

inductive Feedback where
  | quiet
  | found (finding : Finding)
  | invalidLine
  deriving DecidableEq, Repr

def start : Indentation := ⟨[]⟩

def expected (state : Indentation) : Nat := state.levels.headD 0

def closeDeeper (state : Indentation) (width : Nat) : Indentation :=
  ⟨state.levels.dropWhile (width < ·)⟩

def opensBlock (line : Text) : Bool := (trim line).getLast? == some ':'

def openBlock (state : Indentation) (line : Text) : Indentation :=
  if opensBlock line then ⟨(leadingBlanks line + 4) :: state.levels⟩ else state

def misplaced (state : Indentation) (width : Nat) : Bool :=
  match state.levels with
  | [] => false
  | level :: _ => width != 0 && width != level

def advice (expected width : Nat) : Advice where
  message := "Inconsistent indentation"
  suggestion := "Expected " ++ toString expected ++ " spaces, got " ++ toString width

/-- A refused finding leaves the line's own block unopened. -/
def feed (state : Indentation) (number : Int) (line : Text) : Feedback × Indentation :=
  let width := leadingBlanks line
  -- Blocks are closed before the line is judged, and opened after.
  let kept := state.closeDeeper width
  if kept.misplaced width then
    if number < 1 then (.invalidLine, kept)
    else (.found ((advice kept.expected width).atLine number.toNat), kept.openBlock line)
  else (.quiet, kept.openBlock line)

end Indentation

end SnippetGauge
