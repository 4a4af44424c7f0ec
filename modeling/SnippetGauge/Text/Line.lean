set_option autoImplicit false

namespace SnippetGauge

abbrev Text := List Char

end SnippetGauge

namespace SnippetGauge.Text

/-- White space of Unicode and the four information separators. -/
def isBlank (c : Char) : Bool :=
  let n := c.toNat
  (9 ≤ n && n ≤ 13) || (28 ≤ n && n ≤ 32) || n == 0x85 || n == 0xA0 || n == 0x1680 ||
    (0x2000 ≤ n && n ≤ 0x200A) || n == 0x2028 || n == 0x2029 || n == 0x202F || n == 0x205F ||
    n == 0x3000

def trimStart (text : Text) : Text := text.dropWhile isBlank

def trimEnd (text : Text) : Text := (text.reverse.dropWhile isBlank).reverse

def trim (text : Text) : Text := trimEnd (trimStart text)

def isBlankText (text : Text) : Bool := text.all isBlank

def leadingBlanks (line : Text) : Nat := (line.takeWhile isBlank).length

theorem trimStart_append_of_blank {white text : Text} (h : isBlankText white = true) :
    trimStart (white ++ text) = trimStart text :=
  List.dropWhile_append_of_pos fun _ inside => List.all_eq_true.mp h _ inside

def lines : Text → List Text
  | [] => [[]]
  | c :: rest =>
    if c == '\n' then [] :: lines rest
    else
      match lines rest with
      | [] => [[c]]
      | line :: later => (c :: line) :: later

def unlines : List Text → Text
  | [] => []
  | [line] => line
  | line :: later => line ++ '\n' :: unlines later

theorem lines_ne_nil (text : Text) : lines text ≠ [] := by
  cases text with
  | nil => simp [lines]
  | cons c rest => simp only [lines]; split <;> (try split) <;> simp

theorem unlines_cons {later : List Text} (line : Text) (h : later ≠ []) :
    unlines (line :: later) = line ++ '\n' :: unlines later := by
  cases later with
  | nil => exact absurd rfl h
  | cons => rfl

theorem unlines_lines (text : Text) : unlines (lines text) = text := by
  induction text with
  | nil => rfl
  | cons c rest ih =>
    simp only [lines]
    split
    next h => simp_all [unlines_cons _ (lines_ne_nil rest)]
    next =>
      split
      next h => exact absurd h (lines_ne_nil rest)
      next line later h =>
        rw [h] at ih
        cases later <;> simp_all [unlines]

def lineCount (text : Text) : Nat := (lines text).length

def lineStarts (text : Text) : List Text := text :: afterBreaks text
where
  afterBreaks : Text → List Text
    | [] => []
    | c :: rest => if c == '\n' then rest :: afterBreaks rest else afterBreaks rest

def unifyBreaks : Text → Text
  | [] => []
  | '\r' :: '\n' :: rest => '\n' :: unifyBreaks rest
  | '\r' :: rest => '\n' :: unifyBreaks rest
  | c :: rest => c :: unifyBreaks rest

end SnippetGauge.Text
