import SnippetGauge.Text.Pattern

set_option autoImplicit false

namespace SnippetGauge

open Text

structure ComplexityReport where
  complexity : String
  explanation : String
  deriving DecidableEq, Repr

structure Signature where
  pattern : Pattern
  report : ComplexityReport
  requiresRecursion : Bool

namespace Signature

/-- Two words with an optional mark of `joint` between them, in any case. -/
def twoWords (first second : String) (joint : Char → Bool) : Pattern :=
  .all [.letters first.toList, .optional (.one joint), .letters second.toList]

def isUnderscore (c : Char) : Bool := c == '_'

def snake (first second : String) : Pattern := twoWords first second isUnderscore

def word (name : String) : Pattern := .letters name.toList

def quickSort : Signature where
  pattern := .oneOf [snake "quick" "sort", word "partition"]
  report :=
    ⟨"O(n log n) average, O(n²) worst case",
      "QuickSort algorithm detected - Average case is O(n log n), worst case is O(n²)"⟩
  requiresRecursion := false

def mergeSort : Signature where
  pattern := snake "merge" "sort"
  report := ⟨"O(n log n)", "MergeSort algorithm detected - Consistent O(n log n) complexity"⟩
  requiresRecursion := false

def isBetweenWords (c : Char) : Bool := isUnderscore c || isBlank c

def binarySearch : Signature where
  pattern := twoWords "binary" "search" isBetweenWords
  report := ⟨"O(log n)", "Binary Search algorithm detected - Logarithmic time complexity"⟩
  requiresRecursion := false

def bubbleSort : Signature where
  pattern := snake "bubble" "sort"
  report := ⟨"O(n²)", "Bubble Sort algorithm detected - Quadratic time complexity"⟩
  requiresRecursion := false

def insertionSort : Signature where
  pattern := snake "insertion" "sort"
  report := ⟨"O(n²)", "Insertion Sort algorithm detected - Quadratic time complexity"⟩
  requiresRecursion := false

def depthFirst : Signature where
  pattern := .oneOf [snake "depth" "first", word "dfs"]
  report :=
    ⟨"O(V + E)", "DFS graph traversal detected - Linear in terms of vertices (V) and edges (E)"⟩
  requiresRecursion := false

def breadthFirst : Signature where
  pattern := .oneOf [snake "breadth" "first", word "bfs"]
  report :=
    ⟨"O(V + E)", "BFS graph traversal detected - Linear in terms of vertices (V) and edges (E)"⟩
  requiresRecursion := false

def dijkstra : Signature where
  pattern := word "dijkstra"
  report :=
    ⟨"O((V + E) log V)",
      "Dijkstra's algorithm detected - Complexity depends on graph implementation"⟩
  requiresRecursion := false

def fibonacci : Signature where
  pattern := .oneOf [word "fibonacci", word "fib("]
  report := ⟨"O(2^n)", "Recursive Fibonacci implementation detected - Exponential complexity"⟩
  requiresRecursion := true

def table : List Signature :=
  [quickSort, mergeSort, binarySearch, bubbleSort, insertionSort, depthFirst, breadthFirst, dijkstra,
    fibonacci]

def recursionWord : Pattern := .seq (word "recursi") (.oneOf [word "on", word "ve"])

def applies (signature : Signature) (recursive : Bool) (code : Text) : Bool :=
  (!signature.requiresRecursion || recursive) && signature.pattern.occursIn code

def find? (recursive : Bool) (code : Text) : Option Signature :=
  table.find? (·.applies recursive code)

end Signature

end SnippetGauge
