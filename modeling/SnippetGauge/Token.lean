import SnippetGauge.Comment
import SnippetGauge.Language

set_option autoImplicit false

namespace SnippetGauge

open Text

inductive TokenCategory where
  | keyword
  | operator
  | number
  | string
  | delimiter
  | identifier
  | other
  deriving DecidableEq, Repr

namespace TokenCategory

def all : List TokenCategory := [keyword, operator, number, string, delimiter, identifier, other]

def name : TokenCategory → String
  | keyword => "keyword"
  | operator => "operator"
  | number => "number"
  | string => "string"
  | delimiter => "delimiter"
  | identifier => "identifier"
  | other => "other"

def ofName? (name : String) : Option TokenCategory := all.find? (·.name == name)

theorem ofName?_name (category : TokenCategory) : ofName? category.name = some category := by
  cases category <;> decide

end TokenCategory

structure Token where
  value : Text
  line : Nat
  category : TokenCategory
  deriving DecidableEq, Repr

def isOperatorChar (c : Char) : Bool :=
  ['+', '-', '*', '/', '%', '=', '&', '|', '^', '<', '>', '!', '~', '?', ':'].contains c

def isDelimiterChar (c : Char) : Bool :=
  [';', '\x7b', '\x7d', '(', ')', '[', ']', '.', ','].contains c

def isPunctuation (c : Char) : Bool := isDelimiterChar c || isOperatorChar c

/-- The tests on a whole token look past one line feed at its end. -/
def dropFinalBreak (text : Text) : Text :=
  if text.getLast? == some '\n' then text.dropLast else text

def isOperatorText (text : Text) : Bool := !text.isEmpty && text.all isOperatorChar

def isNumberText (text : Text) : Bool :=
  let whole := text.takeWhile isDigit
  !whole.isEmpty &&
    match text.drop whole.length with
    | [] => true
    | '.' :: places => !places.isEmpty && places.all isDigit
    | _ => false

def isIdentifierText : Text → Bool
  | [] => false
  | c :: rest =>
    (isLetter c || c == '_') && rest.all fun d => isLetter d || isDigit d || d == '_'

def isDelimiterText : Text → Bool
  | [c] => isDelimiterChar c
  | _ => false

def isQuotedText (text : Text) : Bool :=
  ['"', '\''].any fun quote => text.head? == some quote && text.getLast? == some quote

def isReserved (language : Language) (word : Text) : Bool :=
  match language.profile? with
  | some profile => profile.reserves word
  | none => false

def categorize (language : Language) (token : Text) : TokenCategory :=
  let body := dropFinalBreak token
  -- Only the tests of the keyword and of the quotes see a line feed at the end.
  if isReserved language (trim token) then .keyword
  else if isOperatorText body then .operator
  else if isNumberText body then .number
  else if isQuotedText token then .string
  else if isDelimiterText body then .delimiter
  else if isIdentifierText body then .identifier
  else .other

def consWord {α : Type} (word : List α) (later : List (List α)) : List (List α) :=
  if word.isEmpty then later else word :: later

def splitPieces : Text → Text × List Text
  | [] => ([], [])
  | c :: rest =>
    let (word, later) := splitPieces rest
    if isBlank c then ([], consWord word later)
    -- A mark ends the word before it and is a piece of its own.
    else if isPunctuation c then ([], [c] :: consWord word later)
    else (c :: word, later)

def pieces (line : Text) : List Text :=
  let (word, later) := splitPieces line
  consWord word later

def tokenizeLine (language : Language) (number : Nat) (line : Text) : List Token :=
  (pieces line).map fun piece => ⟨piece, number, categorize language piece⟩

def tokenize (source : Text) (language : Language) : List Token :=
  ((lines (stripComments source language)).zipIdx 1).flatMap fun (line, number) =>
    tokenizeLine language number line

end SnippetGauge
