import SnippetGauge.Language
import SnippetGauge.Text.Line

set_option autoImplicit false

namespace SnippetGauge

open Text

def closesBlock : Text → Bool
  | [] => false
  | '*' :: '/' :: _ => true
  | _ :: rest => closesBlock rest

theorem closesBlock_cons_of_ne {c : Char} (other : c ≠ '*') (rest : Text) :
    closesBlock (c :: rest) = closesBlock rest := by
  rw [closesBlock]
  exact fun _ star _ => other star

/-- Inside a block comment only the line feeds are kept. -/
def eraseBlocksFrom : (inside : Bool) → Text → Text
  | _, [] => []
  | true, '*' :: '/' :: rest => eraseBlocksFrom false rest
  | true, '\n' :: rest => '\n' :: eraseBlocksFrom true rest
  | true, _ :: rest => eraseBlocksFrom true rest
  | false, '/' :: '*' :: rest =>
    -- A block that is never closed is no comment.
    if closesBlock rest then eraseBlocksFrom true rest else '/' :: '*' :: rest
  | false, c :: rest => c :: eraseBlocksFrom false rest

theorem eraseBlocksFrom_break (inside : Bool) (rest : Text) :
    eraseBlocksFrom inside ('\n' :: rest) = '\n' :: eraseBlocksFrom inside rest := by
  cases inside <;> simp [eraseBlocksFrom]

def eraseBlocks (source : Text) : Text := eraseBlocksFrom false source

def beforeSlashes : Text → Text
  | [] => []
  | '/' :: '/' :: _ => []
  | c :: rest => c :: beforeSlashes rest

def beforeHash (line : Text) : Text := line.takeWhile (· != '#')

def mapLines (change : Text → Text) (source : Text) : Text :=
  unlines ((lines source).map change)

/-- Block comments go first, so a block can open inside a line comment. -/
def stripSlashComments (source : Text) : Text := mapLines beforeSlashes (eraseBlocks source)

def stripHashComments (source : Text) : Text := mapLines beforeHash source

def stripAllComments (source : Text) : Text := stripHashComments (stripSlashComments source)

def stripComments (source : Text) : Language → Text
  | .cpp | .java => stripSlashComments source
  | .python => stripHashComments source
  | .unidentified => source

end SnippetGauge
