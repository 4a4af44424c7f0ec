import SnippetGauge.Lint.Rule
import SnippetGauge.Text.Pattern

set_option autoImplicit false

namespace SnippetGauge.Lint.Cpp

open Text

def isBareForHeader (line : Text) : Bool :=
  match dropPrefix? "for".toList (trimStart line) with
  | none => false
  | some rest =>
    match trimStart rest with
    -- The parenthesis that closes the line may be any later one.
    | '(' :: inner => (trimEnd inner).getLast? == some ')'
    | _ => false

def lacksSemicolon (line : Text) : Bool := !endsStatement line && !isBareForHeader line

/-- Headers of loops and branches may go on below, so they are not judged. -/
def hasUnbalancedParens (line : Text) : Bool :=
  line.count '(' != line.count ')' && !mentions "for" line && !mentions "if" line

def starBetweenWords : Pattern :=
  .all [.one isWordChar, .blanks, .char '*', .blanks, .one isWordChar]

def isPointerDeclaration (line : Text) : Bool :=
  line.contains '*' && !line.contains '=' && starBetweenWords.occursIn line &&
    line.head? != some '*'

def lacksNamespace (code : Text) : Bool :=
  mentions "cout" code && !mentions "std::" code && !mentions "using namespace std" code

def needs (name header message suggestion : String) : FileCheck :=
  .when (fun code => mentions name code && !mentions header code) ⟨message, suggestion⟩

def rules : RuleSet where
  skips := ["/*", "#", "\x7b", "\x7d"]
  lineChecks := [
    ⟨missingSemicolon, lacksSemicolon⟩,
    ⟨⟨"Unbalanced parentheses", "Ensure all parentheses are properly matched"⟩,
      hasUnbalancedParens⟩,
    ⟨⟨"Potential pointer declaration issue",
      "In C++, consider using 'Type* var' or consistent spacing around asterisks"⟩,
      isPointerDeclaration⟩]
  fileChecks := [
    needs "cout" "#include <iostream>" "Using cout without including iostream"
      "Add '#include <iostream>' at the top of your file",
    needs "vector" "#include <vector>" "Using vector without including vector header"
      "Add '#include <vector>' at the top of your file",
    .when lacksNamespace ⟨"Using std library without namespace",
      "Add 'using namespace std;' or prefix with 'std::'"⟩]
  tracksIndentation := false

end SnippetGauge.Lint.Cpp
