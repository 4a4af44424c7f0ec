import SnippetGauge.Text.Line
import SnippetGauge.Text.Word

set_option autoImplicit false

namespace SnippetGauge.Text

def isAsciiBlank (c : Char) : Bool := (9 ≤ c.toNat && c.toNat ≤ 13) || c == ' '

def collapseBlanks : Text → Text
  | [] => []
  | c :: rest =>
    if isAsciiBlank c then
      if (rest.head?.map isAsciiBlank).getD false then collapseBlanks rest
      else ' ' :: collapseBlanks rest
    else c :: collapseBlanks rest

namespace Wrap

def isWordMark (c : Char) : Bool :=
  isWordChar c || ['!', '"', '\'', '&', '.', ',', '?'].contains c

def isWordLetter (c : Char) : Bool := isWordChar c && (digitValue? c).isNone

def headIs (accepts : Char → Bool) (text : Text) : Bool := (text.head?.map accepts).getD false

/-- Two letters, or two single letters with a hyphen, stand before the hyphen. -/
def joinsBefore : Text → Bool
  | b :: '-' :: a :: _ => isWordLetter b && isWordLetter a
  | b :: a :: _ => isWordLetter b && isWordLetter a
  | _ => false

def joinsAfter : Text → Bool
  | a :: '-' :: b :: _ => isWordLetter a && isWordLetter b
  | a :: b :: _ => isWordLetter a && isWordLetter b
  | _ => false

def startsDash (text : Text) : Bool :=
  2 ≤ (text.takeWhile (· == '-')).length && headIs isWordChar (text.dropWhile (· == '-'))

/-- The rest of a piece of a word, of which `before` holds what is read, nearest first. -/
def restOfPiece (before : Text) : Text → Text
  | [] => []
  | c :: rest =>
    if isAsciiBlank c then []
    else if c == '-' && joinsBefore before && joinsAfter rest then ['-']
    else if headIs isWordMark before && startsDash (c :: rest) then []
    else c :: restOfPiece (c :: before) rest

def pieceLength (before : Text) : Text → Nat
  | [] => 0
  | c :: rest =>
    if isAsciiBlank c then (rest.takeWhile isAsciiBlank).length + 1
    else if headIs isWordMark before && startsDash (c :: rest) then
      ((c :: rest).takeWhile (· == '-')).length
    else (restOfPiece (c :: before) rest).length + 1

def splitFrom (before : Text) : (left : Nat) → Text → List Text
  | _, [] => []
  | left, c :: rest =>
    match left with
    | left + 1 =>
      match splitFrom (c :: before) left rest, left with
      | piece :: later, _ + 1 => (c :: piece) :: later
      | pieces, _ => [c] :: pieces
    | 0 =>
      match pieceLength before (c :: rest) - 1 with
      | 0 => [c] :: splitFrom (c :: before) 0 rest
      | more + 1 =>
        match splitFrom (c :: before) (more + 1) rest with
        | piece :: later => (c :: piece) :: later
        | [] => [[c]]

def split (text : Text) : List Text := splitFrom [] 0 text

def fit : (room : Nat) → List Text → List Text × List Text
  | _, [] => ([], [])
  | room, piece :: later =>
    if piece.length ≤ room then
      let (line, rest) := fit (room - piece.length) later
      (piece :: line, rest)
    else ([], piece :: later)

def cutAt (room : Nat) (piece : Text) : Nat :=
  let start := piece.take room
  let afterHyphen := (start.reverse.takeWhile (· != '-')).length
  let hyphen := room - afterHyphen - 1
  if start.contains '-' && 0 < hyphen && (piece.take hyphen).any (· != '-') then hyphen + 1
  else room

def dropBlankLast (line : List Text) : List Text :=
  match line.getLast? with
  | some piece => if isBlankText piece then line.dropLast else line
  | none => line

def layLines (width : Nat) : (fuel : Nat) → (started : Bool) → List Text → List Text
  | 0, _, _ => []
  | _, _, [] => []
  | fuel + 1, started, piece :: later =>
    let pieces := if started && isBlankText piece then later else piece :: later
    let (line, rest) := fit width pieces
    let room := width - (line.map List.length).sum
    let (line, rest) :=
      match rest with
      | long :: more =>
        -- A piece that fits on no line is cut.
        if width < long.length then
          let cut := cutAt room long
          (line ++ [long.take cut], long.drop cut :: more)
        else (line, rest)
      | [] => (line, rest)
    match dropBlankLast line with
    | [] => layLines width fuel started rest
    | kept => kept.flatten :: layLines width fuel true rest

end Wrap

def wrap (width : Nat) (text : Text) : List Text :=
  Wrap.layLines width (2 * text.length + 1) false (Wrap.split text)

end SnippetGauge.Text
