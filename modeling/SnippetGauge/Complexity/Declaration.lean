import SnippetGauge.Language
import SnippetGauge.Text.Line
import SnippetGauge.Text.Search
import SnippetGauge.Text.Word

set_option autoImplicit false

namespace SnippetGauge

open Text

def nonFunctionWords : List String :=
  ["if", "for", "while", "switch", "catch", "return", "sizeof", "new", "else", "do"]

/-- The names that follow one of the heads; a name is not read as a head again. -/
def namesAfter (heads : List String) (needsCall : Bool) : List WordSite → List Text
  | [] => []
  | [_] => []
  | head :: name :: later =>
    -- The name is taken together with its head.
    if heads.any (·.toList == head.word) && head.blankToNext && (!needsCall || name.isCall) then
      name.word :: namesAfter heads needsCall later
    else namesAfter heads needsCall (name :: later)

def isGap (c : Char) : Bool := c == ' ' || c == '\t'

namespace TypedHead

def isTypeStart (c : Char) : Bool := isLetter c || c == '_'

def isTypeChar (c : Char) : Bool := isWordChar c || [':', '<', '>', ',', '[', ']'].contains c

def isSeparator (c : Char) : Bool := isGap c || c == '*' || c == '&'

def isAngleChar (c : Char) : Bool :=
  !(['<', '>', ';', '\x7b', '\x7d', '(', ')', '\n'].contains c)

def afterTypeWord? : Text → Option Text
  | [] => none
  | c :: rest =>
    if isTypeStart c then some (rest.dropWhile isTypeChar)
    else if c == '<' then
      match rest.dropWhile isAngleChar with
      | '>' :: after => some after
      | _ => none
    else none

def afterSeparators? : Text → Option Text
  | [] => none
  | c :: rest => if isSeparator c then some (rest.dropWhile isSeparator) else none

def afterTypePart? (text : Text) : Option Text := (afterTypeWord? text).bind afterSeparators?

theorem afterTypeWord?_length {text rest : Text} (h : afterTypeWord? text = some rest) :
    rest.length < text.length := by
  cases text with
  | nil => simp [afterTypeWord?] at h
  | cons c more =>
    simp only [afterTypeWord?] at h
    split at h
    · have shorter := (List.dropWhile_sublist (l := more) isTypeChar).length_le
      simp only [Option.some.injEq] at h
      subst h
      simp only [List.length_cons]
      omega
    · split at h
      · have shorter := (List.dropWhile_sublist (l := more) isAngleChar).length_le
        split at h
        next after same =>
          simp only [Option.some.injEq] at h
          subst h
          rw [same] at shorter
          simp only [List.length_cons] at shorter ⊢
          omega
        next => simp at h
      · simp at h

theorem afterTypePart?_length {text rest : Text} (h : afterTypePart? text = some rest) :
    rest.length < text.length := by
  simp only [afterTypePart?, Option.bind_eq_some_iff] at h
  obtain ⟨middle, hw, hs⟩ := h
  have shorter := afterTypeWord?_length hw
  cases middle with
  | nil => simp [afterSeparators?] at hs
  | cons c more =>
    simp only [afterSeparators?] at hs
    split at hs
    · have rests := (List.dropWhile_sublist (l := more) isSeparator).length_le
      simp only [Option.some.injEq] at hs
      subst hs
      simp only [List.length_cons] at shorter
      omega
    · simp at hs

def namePlaces (text : Text) : List Text :=
  match _h : afterTypePart? text with
  | none => []
  | some rest => rest :: namePlaces rest
termination_by text.length
decreasing_by exact afterTypePart?_length ‹_›

def nameAt? (text : Text) : Option (Text × Text) :=
  let name := leadingWord text
  if name.isEmpty then none
  else
    match (text.drop name.length).dropWhile isGap with
    | '(' :: after => some (name, after)
    | _ => none

def isParameterChar (c : Char) : Bool := !([';', '\x7b', ')'].contains c)

def afterParameters? (text : Text) : Option Text :=
  match text.dropWhile isParameterChar with
  | ')' :: after => some after
  | _ => none

def afterOpening? : Text → Option Text
  | [] => some []
  | '\x7b' :: rest => some rest
  | '\n' :: rest => some ('\n' :: rest)
  | _ => none

def isThrownChar (c : Char) : Bool := !([';', '\x7b'].contains c)

def lastLine (text : Text) : Text := (text.reverse.takeWhile (· != '\n')).reverse

/-- A list of exceptions runs to the opening brace, or else back to its last line end. -/
def afterThrown? (text : Text) : Option Text :=
  match text.dropWhile isThrownChar with
  | [] => some []
  | '\x7b' :: rest => some rest
  | rest =>
    let thrown := text.takeWhile isThrownChar
    -- A statement ends the list, so the head ends at a line end before it.
    if thrown.contains '\n' then some ('\n' :: lastLine thrown ++ rest) else none

def afterConst (text : Text) : Text :=
  let rest := text.dropWhile isGap
  match dropPrefix? "const".toList rest with
  | some after => after.dropWhile isGap
  | none => rest

def afterHeadEnd? (text : Text) : Option Text :=
  match dropPrefix? "throws".toList (afterConst text) with
  | some after => afterThrown? after
  | none => afterOpening? (afterConst text)

def declaredAt? (place : Text) : Option (Text × Text) := do
  let (name, after) ← nameAt? place
  let after ← afterParameters? after
  let after ← afterHeadEnd? after
  return (name, after)

def read? (line : Text) : Option (Text × Text) :=
  -- The longest type that leaves a name is preferred.
  (namePlaces (line.dropWhile isGap)).reverse.findSome? declaredAt?

/-- Heads do not overlap: the next begins within the last `left` characters. -/
def namesFrom (left : Nat) : List Text → List Text
  | [] => []
  | start :: later =>
    -- This line begins inside the head read last.
    if left < start.length then namesFrom left later
    else
      match read? start with
      | some (name, after) => name :: namesFrom after.length later
      | none => namesFrom left later

def names (code : Text) : List Text := namesFrom code.length (lineStarts code)

end TypedHead

def declaredNames (code : Text) : Language → List Text
  | .cpp | .java => TypedHead.names code
  | .python => namesAfter ["def"] true (wordSites code)
  | .unidentified => namesAfter ["function", "def"] false (wordSites code)

def isFunctionName (name : Text) : Bool := !nonFunctionWords.any (·.toList == name)

def declaredFunctions (code : Text) (language : Language) : List Text :=
  ((declaredNames code language).filter isFunctionName).eraseDups

/-- The declaration is itself one call, so a second one is looked for. -/
def recursiveFunction? (code : Text) (language : Language) : Option Text :=
  (declaredFunctions code language).find? fun name => 1 < callCount name code

end SnippetGauge
