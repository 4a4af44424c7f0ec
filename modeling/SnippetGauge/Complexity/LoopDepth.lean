import SnippetGauge.Language
import SnippetGauge.Text.Line
import SnippetGauge.Text.Word

set_option autoImplicit false

namespace SnippetGauge

open Text

def hasLoopWord (line : Text) : Bool :=
  (words line).any fun word => word == "for".toList || word == "while".toList

structure BraceScan where
  depth : Nat
  deepest : Nat

def BraceScan.line (scan : BraceScan) (line : Text) : BraceScan :=
  let depth := if hasLoopWord line then scan.depth + 1 else scan.depth
  -- A line ends one loop at most, however many braces it closes. One that it opens still counts.
  { depth := if line.contains '\x7d' then depth - 1 else depth
    deepest := max scan.deepest depth }

def braceDepth (source : List Text) : Nat :=
  (source.foldl BraceScan.line ⟨0, 0⟩).deepest

/-- The levels of the loops around the current line, innermost first. -/
structure IndentScan where
  loops : List Nat
  deepest : Nat

def indentLevel (line : Text) : Nat := leadingBlanks line / 4

def IndentScan.line (scan : IndentScan) (line : Text) : IndentScan :=
  if isBlankText line then scan
  else
    -- Loops at this level or deeper are over.
    let around := scan.loops.dropWhile (indentLevel line ≤ ·)
    if hasLoopWord line then
      { loops := indentLevel line :: around
        deepest := max scan.deepest (around.length + 1) }
    else { scan with loops := around }

def indentDepth (source : List Text) : Nat :=
  (source.foldl IndentScan.line ⟨[], 0⟩).deepest

def Language.usesBraces (language : Language) : Bool :=
  match language.profile? with
  | some profile => profile.usesBraces
  | none => true

def loopDepth (code : Text) (language : Language) : Nat :=
  if language.usesBraces then braceDepth (lines code) else indentDepth (lines code)

end SnippetGauge
