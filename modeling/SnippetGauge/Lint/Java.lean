import SnippetGauge.Lint.Rule
import SnippetGauge.Text.LetterCase
import SnippetGauge.Text.Pattern
import SnippetGauge.Text.Word

set_option autoImplicit false

namespace SnippetGauge.Lint.Java

open Text

def lacksSemicolon (line : Text) : Bool :=
  !endsStatement line &&
    !startsWithAny (["@", "package", "import", "public class"].map String.toList) line

def isUninitialized (line : Text) : Bool :=
  ["int ", "String ", "boolean ", "double "].any (mentions · line) && !line.contains '=' &&
    !line.contains '('

def isMalformedPrint (line : Text) : Bool :=
  match afterFirst? "System.out.print".toList line with
  | some after => !after.contains '('
  | none => false

def publicClassHead : Pattern :=
  .all [.literal "public".toList, .someBlanks, .literal "class".toList, .someBlanks]

def publicClassName? : Text → Option Text
  | [] => none
  | c :: rest =>
    -- White space is given back only as long as a name still follows.
    match (publicClassHead.rests (c :: rest)).find? fun left => !(leadingWord left).isEmpty with
    | some left => some (leadingWord left)
    | none => publicClassName? rest

/-- Also a class written in small letters throughout meets its own name. -/
def classNameAdvice (code : Text) : Option Advice :=
  match publicClassName? code with
  | none => none
  | some name =>
    if occursIn ("class ".toList ++ lower name) (lower code) then
      some ⟨"Java is case-sensitive with class names",
        "Ensure class name '" ++ String.ofList name ++ "' is used consistently throughout your code"⟩
    else none

def lacksMain (code : Text) : Bool :=
  mentions "public class" code && !mentions "public static void main" code

def rules : RuleSet where
  skips := ["/*"]
  lineChecks := [
    ⟨missingSemicolon, lacksSemicolon⟩,
    ⟨⟨"Variable declared but not initialized",
      "Consider initializing this variable with a default value"⟩, isUninitialized⟩,
    ⟨⟨"Incorrect System.out.print usage", "Use parentheses: System.out.println()"⟩,
      isMalformedPrint⟩]
  fileChecks := [
    ⟨classNameAdvice⟩,
    .when lacksMain ⟨"No main method found",
      "Add 'public static void main(String[] args) \x7b \x7d' to make your class executable"⟩]
  tracksIndentation := false

end SnippetGauge.Lint.Java
