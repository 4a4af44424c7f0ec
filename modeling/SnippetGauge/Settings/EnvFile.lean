import SnippetGauge.Text.Line
import SnippetGauge.Text.Search

set_option autoImplicit false

namespace SnippetGauge.EnvFile

open Text

abbrev Binding := Text × Option Text

def isLineBreak (c : Char) : Bool := c == '\n' || c == '\r'

def isInlineBlank (c : Char) : Bool := isBlank c && !isLineBreak c

def skipBlanks (text : Text) : Text := text.dropWhile isInlineBlank

def skipExport (text : Text) : Text :=
  match dropPrefix? "export".toList text with
  | some rest =>
    match rest with
    | c :: _ => if isInlineBlank c then skipBlanks rest else text
    | [] => text
  | none => text

def isNameChar (c : Char) : Bool := c != '=' && c != '#' && !isBlank c

def readName? : Text → Option (Option Text × Text)
  | '#' :: rest => some (none, '#' :: rest)
  | '\'' :: rest =>
    match rest.takeWhile (· != '\''), rest.dropWhile (· != '\'') with
    | c :: name, _ :: after => some (some (c :: name), after)
    | _, _ => none
  | text =>
    match text.takeWhile isNameChar with
    | [] => none
    | name => some (some name, text.dropWhile isNameChar)

/-- The text up to a closing quote and what follows it. No character after a backslash closes it. -/
def readQuoted? (quote : Char) : Text → Option (Text × Text)
  | [] => none
  | '\\' :: c :: rest =>
    (readQuoted? quote rest).map fun (inner, after) => ('\\' :: c :: inner, after)
  | c :: rest =>
    if c == quote then some ([], rest)
    else (readQuoted? quote rest).map fun (inner, after) => (c :: inner, after)

def escapeValue? (quote c : Char) : Option Char :=
  if c == '\\' || c == '\'' then some c
  else if quote == '"' then
    match c with
    | '"' => some '"'
    | 'a' => some (Char.ofNat 7)
    | 'b' => some (Char.ofNat 8)
    | 'f' => some (Char.ofNat 12)
    | 'n' => some '\n'
    | 'r' => some '\r'
    | 't' => some '\t'
    | 'v' => some (Char.ofNat 11)
    | _ => none
  else none

def unescape (quote : Char) : Text → Text
  | [] => []
  | '\\' :: c :: rest =>
    match escapeValue? quote c with
    | some value => value :: unescape quote rest
    | none => '\\' :: unescape quote (c :: rest)
  | c :: rest => c :: unescape quote rest

def beforeComment : Text → Text
  | [] => []
  | c :: rest =>
    if isBlank c && rest.head? == some '#' then [] else c :: beforeComment rest

def readValue? (text : Text) : Option (Text × Text) :=
  match skipBlanks text with
  | [] => some ([], [])
  | c :: rest =>
    if c == '\'' || c == '"' then
      (readQuoted? c rest).map fun (inner, after) => (unescape c inner, after)
    else
      let line := text.takeWhile (!isLineBreak ·)
      some (trim (beforeComment line), text.drop line.length)

def afterLine? (text : Text) : Option Text :=
  let rest := skipBlanks text
  let rest := if rest.head? == some '#' then rest.dropWhile (!isLineBreak ·) else rest
  match rest with
  | [] => some []
  | '\r' :: '\n' :: after => some after
  | c :: after => if isLineBreak c then some after else none

/-- Where reading stopped in the middle of a line, the rest of the line is dropped. -/
def dropLine (text : Text) : Text := (text.dropWhile (!isLineBreak ·)).drop 1

def readBinding (text : Text) : Option Binding × Text :=
  let start := skipExport text
  match readName? start with
  | none => (none, dropLine start)
  | some (name, afterName) =>
    let rest := skipBlanks afterName
    let valued : Option (Option Text × Text) :=
      match rest with
      | '=' :: more => (readValue? more).map fun (value, after) => (some value, after)
      | _ => some (none, rest)
    match valued with
    | none =>
      let unread :=
        match rest with
        | '=' :: more => skipBlanks more
        | _ => rest
      (none, dropLine unread)
    | some (value, after) =>
      match afterLine? after with
      | some later => (name.map (·, value), later)
      | none => (none, dropLine after)

def readBindings : (fuel : Nat) → Text → List Binding
  | 0, _ => []
  | fuel + 1, text =>
    match trimStart text with
    | [] => []
    | c :: rest =>
      let (binding, later) := readBinding (c :: rest)
      binding.toList ++ readBindings fuel later

def bindings (text : Text) : List Binding := readBindings (text.length + 1) text

def readReference? (text : Text) : Option ((Text × Text) × Text) :=
  let name := text.takeWhile fun c => c != '\x7d' && c != ':'
  match text.drop name.length with
  | '\x7d' :: after => some ((name, []), after)
  | ':' :: '-' :: rest =>
    match rest.dropWhile (· != '\x7d') with
    | _ :: after => some ((name, rest.takeWhile (· != '\x7d')), after)
    | [] => none
  | _ => none

/-- Replaces references; `skip` characters belong to one that is already replaced. -/
def expand (lookup : Text → Option (Option Text)) : (skip : Nat) → Text → Text
  | _, [] => []
  | skip + 1, _ :: rest => expand lookup skip rest
  -- A reference that is not closed is plain text.
  | 0, '$' :: '\x7b' :: rest =>
    match readReference? rest with
    | some ((name, default), after) =>
      let value : Text :=
        match lookup name with
        | some (some value) => value
        | some none => []
        | none => default
      value ++ expand lookup (rest.length + 1 - after.length) ('\x7b' :: rest)
    | none => '$' :: expand lookup 0 ('\x7b' :: rest)
  | 0, c :: rest => c :: expand lookup 0 rest

def put (known : List Binding) (name : Text) (value : Option Text) : List Binding :=
  if known.any (·.1 == name) then known.map fun b => if b.1 == name then (name, value) else b
  else known ++ [(name, value)]

def resolve (environment : List (Text × Text)) (known : List Binding) : List Binding → List Binding
  | [] => known
  | (name, value) :: later =>
    let lookup (wanted : Text) : Option (Option Text) :=
      match known.find? (·.1 == wanted) with
      | some (_, value) => some value
      | none => (environment.find? (·.1 == wanted)).map fun (_, value) => some value
    resolve environment (put known name (value.map (expand lookup 0))) later

def dropByteOrderMark : Text → Text
  | [] => []
  | c :: rest => if c == Char.ofNat 0xFEFF then rest else c :: rest

def read (environment : List (Text × Text)) (text : Text) : List Binding :=
  resolve environment [] (bindings (unifyBreaks (dropByteOrderMark text)))

end SnippetGauge.EnvFile
