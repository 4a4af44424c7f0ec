import SnippetGauge.Lint.Rule
import SnippetGauge.Text.Word

set_option autoImplicit false

namespace SnippetGauge.Lint.Python

open Text

def blockOpeners : List String := ["if ", "elif ", "else", "for ", "while ", "def ", "class "]

def lacksColon (line : Text) : Bool :=
  startsWithAny (blockOpeners.map String.toList) line && line.getLast? != some ':'

def isPrintStatement (line : Text) : Bool := mentions "print " line && !mentions "print(" line

def isCapitalized : Text → Bool
  | [] => false
  | c :: rest => isUpper c && rest.all isLower

def assignsCapitalized (line : Text) : Bool :=
  (wordSites line).any fun site => isCapitalized site.word && nextIs '=' site.after

def namesCapitalized (line : Text) : Bool := assignsCapitalized line && !mentions "class" line

def rules : RuleSet where
  skips := []
  lineChecks := [
    ⟨⟨"Missing colon at the end of statement", "Add ':' at the end of this line"⟩, lacksColon⟩,
    ⟨⟨"Incorrect print syntax (Python 3)", "Use print() with parentheses in Python 3"⟩,
      isPrintStatement⟩,
    ⟨⟨"Non-conventional variable naming",
      "In Python, variables typically use snake_case rather than CamelCase"⟩, namesCapitalized⟩]
  fileChecks := []
  tracksIndentation := true

end SnippetGauge.Lint.Python
