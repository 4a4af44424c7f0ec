import SnippetGauge.Text.Line
import SnippetGauge.Text.Pattern
import SnippetGauge.Text.Search

set_option autoImplicit false

namespace SnippetGauge

open Text

inductive Language where
  | cpp
  | java
  | python
  | unidentified
  deriving DecidableEq, Repr

namespace Language

def all : List Language := [cpp, java, python, unidentified]

def name : Language → String
  | cpp => "cpp"
  | java => "java"
  | python => "python"
  | unidentified => "unidentified"

def ofName? (name : String) : Option Language := all.find? (·.name == name)

theorem ofName?_name (language : Language) : ofName? language.name = some language := by
  cases language <;> decide

end Language

structure Bonus where
  holds : Text → Bool
  weight : Int

/-- What is known of a supported language. The reserved words are in the order of code points. -/
structure Profile where
  keywords : List String
  bonuses : List Bonus
  negatives : List String
  reservedWords : List String
  usesBraces : Bool

def Profile.reserves (profile : Profile) (word : Text) : Bool :=
  profile.reservedWords.any (·.toList == word)

def Bonus.strong (pattern : Pattern) : Bonus := ⟨pattern.occursIn, 5⟩

namespace Pattern

def spaced (parts : List String) : Pattern :=
  match parts with
  | [] => nothing
  | word :: later => later.foldl (fun p next => seq p (seq someBlanks (literal next.toList)))
      (literal word.toList)

def argumentList : Pattern :=
  all [spaced ["int", "argc"], blanks, char ',', blanks, literal "char".toList, blanks, char '*',
    blanks, optional (char '*'), blanks, literal "argv".toList, blanks,
    optional (all [char '[', blanks, char ']'])]

def cppMain : Pattern :=
  all [spaced ["int", "main"], blanks, char '(', blanks,
    optional (alt (literal "void".toList) argumentList), blanks, char ')']

def publicClass : Pattern :=
  all [literal "public".toList, someBlanks,
    optional (seq (literal "static".toList) someBlanks), literal "class".toList]

def publicMain : Pattern := spaced ["public", "static", "void", "main"]

end Pattern

def isIndentedLine (line : Text) : Bool :=
  let gap := line.takeWhile fun c => c == ' ' || c == '\t'
  2 ≤ gap.length && gap.length ≤ 4 && ((line.drop gap.length).head?.map isWordChar).getD false

namespace Profile

def cpp : Profile where
  keywords := ["#include", "using namespace", "std::", "cout", "cin", "->", "::", "nullptr"]
  bonuses := [.strong (.literal "#include".toList), .strong .cppMain]
  negatives := []
  reservedWords := [
    "auto", "bool", "break", "case", "char", "class", "const", "continue", "default", "delete",
    "do", "double", "else", "enum", "explicit", "false", "float", "for", "if", "inline", "int",
    "long", "namespace", "new", "nullptr", "private", "protected", "public", "return", "short",
    "signed", "sizeof", "static", "struct", "switch", "template", "this", "true", "typedef",
    "unsigned", "using", "virtual", "void", "while"]
  usesBraces := true

def java : Profile where
  keywords := ["public class", "public static void main", "System.out.println", "import java.",
    "extends", "@Override"]
  bonuses := [.strong .publicClass, .strong .publicMain]
  negatives := ["#include", "def ", "elif", "print("]
  reservedWords := [
    "abstract", "assert", "boolean", "break", "byte", "case", "catch", "char", "class", "const",
    "continue", "default", "do", "double", "else", "enum", "extends", "final", "finally", "float",
    "for", "if", "implements", "import", "instanceof", "int", "interface", "long", "native", "new",
    "package", "private", "protected", "public", "return", "short", "static", "strictfp", "super",
    "switch", "synchronized", "this", "throw", "throws", "transient", "try", "void", "volatile",
    "while"]
  usesBraces := true

def python : Profile where
  keywords := ["def ", "import ", "from ", "if __name__ == \"__main__\"", "print(", "elif",
    "class ", "self"]
  bonuses := [
    ⟨fun code => (lines code).any isIndentedLine, 3⟩,
    ⟨occursIn "def __init__(self".toList, 4⟩,
    ⟨fun code => !code.contains ';', 2⟩]
  -- The first is a semicolon followed by a dollar sign.
  negatives := [";$", "#include", "public class", "void", "int main"]
  reservedWords := [
    "False", "None", "True", "and", "as", "assert", "async", "await", "break", "class", "continue",
    "def", "del", "elif", "else", "except", "finally", "for", "from", "global", "if", "import",
    "in", "is", "lambda", "nonlocal", "not", "or", "pass", "raise", "return", "try", "while",
    "with", "yield"]
  usesBraces := false

end Profile

def Language.profile? : Language → Option Profile
  | .cpp => some .cpp
  | .java => some .java
  | .python => some .python
  | .unidentified => none

end SnippetGauge
