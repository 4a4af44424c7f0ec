import SnippetGauge.Comment
import SnippetGauge.Complexity.Declaration
import SnippetGauge.Complexity.LoopDepth
import SnippetGauge.Complexity.Signature

set_option autoImplicit false

namespace SnippetGauge

open Text

namespace ComplexityReport

def ofRecursion (name : Text) : ComplexityReport where
  complexity := "O(2^n)"
  explanation := "Recursive function calls detected in '" ++ String.ofList name ++
    "' - Potentially exponential complexity"

def ofDepth : Nat → ComplexityReport
  | 0 => ⟨"O(1)", "Constant time - No loops or recursion detected"⟩
  | 1 => ⟨"O(n)", "Linear time - Single loop detected"⟩
  | 2 => ⟨"O(n²)", "Quadratic time - Nested loops detected"⟩
  | 3 => ⟨"O(n³)", "Cubic time - Triple nested loops detected"⟩
  | depth =>
    ⟨"O(n^" ++ toString depth ++ ")",
      "Polynomial time - " ++ toString depth ++ " levels of nested loops detected"⟩

def addNotes (report : ComplexityReport) (notes : List String) : ComplexityReport :=
  if notes.isEmpty then report
  else { report with explanation := report.explanation ++ "\nNote: " ++ ". ".intercalate notes }

end ComplexityReport

def callsSort (code : Text) : Bool :=
  (wordSites code).any fun site =>
    (site.word == "sort".toList || site.word == "sorted".toList) && site.isCall

def hashContainers : List String :=
  ["unordered_map", "unordered_set", "HashMap", "HashSet", "LinkedHashMap", "LinkedHashSet",
    "Hashtable", "Map", "Set", "dict", "defaultdict", "Counter"]

def usesHashContainer (code : Text) : Bool :=
  (words code).any fun word => hashContainers.any (·.toList == word)

def notes (code : Text) : List String :=
  (if callsSort code then ["Built-in sorting operations are typically O(n log n)"] else []) ++
    (if usesHashContainer code then ["Hash table operations are generally O(1) for lookups"] else [])

def baseReport (code : Text) (language : Language) : ComplexityReport :=
  let recursive := recursiveFunction? code language
  -- The word alone is a hint, but no recursion.
  let hinted := recursive.isSome || Signature.recursionWord.occursIn code
  match Signature.find? hinted code with
  | some signature => signature.report
  | none =>
    match recursive with
    | some name => .ofRecursion name
    | none => .ofDepth (loopDepth code language)

/-- Comments of every form are removed whatever the language is. -/
def estimate (source : Text) (language : Language) : ComplexityReport :=
  let code := stripAllComments source
  (baseReport code language).addNotes (notes code)

end SnippetGauge
