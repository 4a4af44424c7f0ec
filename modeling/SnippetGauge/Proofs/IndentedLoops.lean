import SnippetGauge.Complexity.LoopDepth
import SnippetGauge.Proofs.Lines

set_option autoImplicit false

namespace SnippetGauge

open Text

structure Statement where
  text : Text
  starts : text.head?.any (!isBlank ·) = true
  single : '\n' ∉ text

def Statement.isLoop (statement : Statement) : Bool := hasLoopWord statement.text

inductive Block where
  | empty
  | statement (first : Statement) (inner later : Block)

namespace Block

def row (depth : Nat) (statement : Statement) : Text :=
  List.replicate (4 * depth) ' ' ++ statement.text

def rows (depth : Nat) : Block → List Text
  | empty => []
  | statement first inner later => row depth first :: (inner.rows (depth + 1) ++ later.rows depth)

/-- The text has a line for each statement, in order, and blank lines anywhere. -/
def IsShownBy (block : Block) (text : Text) : Prop :=
  (lines text).filter (!isBlankText ·) = block.rows 0

/-- Each statement with the statements that it stands inside of. -/
def places (around : List Statement) : Block → List (Statement × List Statement)
  | empty => []
  | statement first inner later =>
    (first, around) :: (inner.places (first :: around) ++ later.places around)

def deepest (places : List (Statement × List Statement)) : Nat :=
  ((places.filter (·.1.isLoop)).map fun place => 1 + place.2.countP (·.isLoop)).foldr max 0

def loopNesting (block : Block) : Nat := deepest (block.places [])

theorem isBlankText_row (statement : Statement) (depth : Nat) :
    isBlankText (row depth statement) = false := by
  have starts := statement.starts
  unfold row isBlankText
  cases filled : statement.text with
  | nil => simp [filled] at starts
  | cons c rest => simp_all

theorem whole_of_mem_rows {block : Block} {depth : Nat} {row : Text}
    (inside : row ∈ block.rows depth) : '\n' ∉ row ∧ isBlankText row = false := by
  induction block generalizing depth with
  | empty => simp [rows] at inside
  | statement first inner later ihInner ihLater =>
    simp only [rows, List.mem_cons, List.mem_append] at inside
    rcases inside with rfl | inside | inside
    · exact ⟨by simp [row, first.single], isBlankText_row first depth⟩
    · exact ihInner inside
    · exact ihLater inside

theorem isShownBy_rows (block : Block) : block.IsShownBy (unlines (block.rows 0)) := by
  have filled : (block.rows 0).filter (!isBlankText ·) = block.rows 0 := by
    apply List.filter_eq_self.mpr
    intro row inside
    simp [(whole_of_mem_rows inside).2]
  by_cases bare : block.rows 0 = []
  next => simp [IsShownBy, bare, unlines, lines, isBlankText]
  next => rw [IsShownBy, lines_unlines bare fun row inside => (whole_of_mem_rows inside).1, filled]

theorem deepest_cons (first : Statement) (around : List Statement)
    (later : List (Statement × List Statement)) :
    deepest ((first, around) :: later) =
      max (if first.isLoop then around.countP (·.isLoop) + 1 else 0) (deepest later) := by
  by_cases loop : first.isLoop = true <;> simp [deepest, loop, Nat.add_comm]

theorem deepest_append (before after : List (Statement × List Statement)) :
    deepest (before ++ after) = max (deepest before) (deepest after) := by
  induction before with
  | nil => exact (Nat.zero_max _).symm
  | cons place before ih =>
    rw [List.cons_append, deepest_cons, deepest_cons, ih, Nat.max_assoc]

end Block

theorem hasLoopWord_indented (width : Nat) (text : Text) :
    hasLoopWord (List.replicate width ' ' ++ text) = hasLoopWord text := by
  induction width with
  | zero => rfl
  | succ width ih => exact ih

theorem leadingBlanks_indented (width : Nat) {text : Text}
    (starts : text.head?.any (!isBlank ·) = true) :
    leadingBlanks (List.replicate width ' ' ++ text) = width := by
  induction width with
  | zero =>
    cases text with
    | nil => simp at starts
    | cons c rest =>
      have filled : isBlank c = false := by simpa using starts
      simp [leadingBlanks, filled]
  | succ width ih =>
    have blank : isBlank ' ' = true := by decide
    simpa [leadingBlanks, List.replicate_succ, blank] using ih

variable (statement : Statement) (depth : Nat)

theorem hasLoopWord_row : hasLoopWord (Block.row depth statement) = statement.isLoop :=
  hasLoopWord_indented _ _

theorem indentLevel_row : indentLevel (Block.row depth statement) = depth := by
  have width := leadingBlanks_indented (4 * depth) statement.starts
  rw [indentLevel, Block.row, width]
  omega

namespace IndentScan

variable (scan : IndentScan)

def around (level : Nat) : List Nat := scan.loops.dropWhile (level ≤ ·)

theorem line_row :
    scan.line (Block.row depth statement) =
      if statement.isLoop then
        ⟨depth :: scan.around depth, max scan.deepest ((scan.around depth).length + 1)⟩
      else ⟨scan.around depth, scan.deepest⟩ := by
  simp [line, Block.isBlankText_row, hasLoopWord_row, indentLevel_row, around]

variable {scan} {level : Nat}

theorem dropWhile_dropWhile_le (loops : List Nat) :
    (loops.dropWhile (depth ≤ ·)).dropWhile (level ≤ ·) =
      loops.dropWhile (min level depth ≤ ·) := by
  induction loops with
  | nil => rfl
  | cons loop outer ih =>
    by_cases ended : depth ≤ loop
    next =>
      have either : min level depth ≤ loop := by omega
      simpa only [List.dropWhile_cons, ended, either, decide_true, if_true] using ih
    next =>
      by_cases above : level ≤ depth
      next => simp only [List.dropWhile_cons, ended, Nat.min_eq_left above, decide_false,
        Bool.false_eq_true, if_false]
      next =>
        have neither : ¬ level ≤ loop ∧ ¬ min level depth ≤ loop := by omega
        simp only [List.dropWhile_cons, ended, neither, decide_false, Bool.false_eq_true, if_false]

theorem around_line_row (above : level ≤ depth) :
    (scan.line (Block.row depth statement)).around level = scan.around level := by
  have same : (scan.around depth).dropWhile (level ≤ ·) = scan.around level := by
    rw [around, dropWhile_dropWhile_le, Nat.min_eq_left above, around]
  rw [line_row]
  cases statement.isLoop with
  | true => simpa [around, above] using same
  | false => exact same

theorem length_around_inner :
    ((scan.line (Block.row depth statement)).around (depth + 1)).length =
      (scan.around depth).length + if statement.isLoop then 1 else 0 := by
  have same : (scan.around depth).dropWhile (depth + 1 ≤ ·) = scan.around depth := by
    rw [around, dropWhile_dropWhile_le, Nat.min_eq_right (Nat.le_succ depth)]
  rw [line_row]
  cases statement.isLoop with
  | true => simp [around]
  | false => exact congrArg List.length same

theorem deepest_line_row :
    (scan.line (Block.row depth statement)).deepest =
      max scan.deepest (if statement.isLoop then (scan.around depth).length + 1 else 0) := by
  rw [line_row]
  cases statement.isLoop <;> simp

theorem foldl_rows (block : Block) (ancestors : List Statement)
    (open_ : (scan.around depth).length = ancestors.countP (·.isLoop)) :
    let after := (block.rows depth).foldl line scan
    (∀ level ≤ depth, after.around level = scan.around level) ∧
      after.deepest = max scan.deepest (Block.deepest (block.places ancestors)) := by
  induction block generalizing depth ancestors scan with
  | empty => simp [Block.rows, Block.places, Block.deepest]
  | statement first inner later ihInner ihLater =>
    let headed := scan.line (Block.row depth first)
    have entered : (headed.around (depth + 1)).length = (first :: ancestors).countP (·.isLoop) := by
      rw [length_around_inner, open_, List.countP_cons]
    obtain ⟨innerAround, innerDeepest⟩ := ihInner (depth + 1) (first :: ancestors) entered
    let nested := (inner.rows (depth + 1)).foldl line headed
    have outer (level : Nat) (above : level ≤ depth) : nested.around level = scan.around level := by
      rw [innerAround level (by omega), around_line_row first depth above]
    have left : (nested.around depth).length = ancestors.countP (·.isLoop) := by
      rw [outer depth (Nat.le_refl depth), open_]
    obtain ⟨laterAround, laterDeepest⟩ := ihLater depth ancestors left
    simp only [Block.rows, List.foldl_cons, List.foldl_append]
    constructor
    · intro level above
      rw [laterAround level above, outer level above]
    · rw [laterDeepest, innerDeepest, deepest_line_row, open_]
      simp only [Block.places, Block.deepest_cons, Block.deepest_append, Nat.max_assoc]

end IndentScan

theorem indentDepth_filter (source : List Text) :
    indentDepth (source.filter (!isBlankText ·)) = indentDepth source := by
  have skips : (fun scan line => if !isBlankText line then IndentScan.line scan line else scan) =
      IndentScan.line := by
    funext scan line
    cases blank : isBlankText line <;> simp [IndentScan.line, blank]
  simp only [indentDepth, List.foldl_filter, skips]

theorem loopDepth_of_isShownBy {block : Block} {text : Text} (shown : block.IsShownBy text) :
    loopDepth text .python = block.loopNesting := by
  have start : (IndentScan.around ⟨[], 0⟩ 0).length = [].countP Statement.isLoop := rfl
  have scanned := (IndentScan.foldl_rows 0 block [] start).2
  have indented : Language.usesBraces .python = false := rfl
  rw [loopDepth, indented, ← indentDepth_filter, shown]
  simpa [indentDepth, Block.loopNesting] using scanned

def rowSearch : Block :=
  .statement ⟨"for row in rows:".toList, by decide, by decide⟩
    (.statement ⟨"if row:".toList, by decide, by decide⟩
      (.statement ⟨"while left:".toList, by decide, by decide⟩
        (.statement ⟨"step()".toList, by decide, by decide⟩ .empty .empty) .empty)
      (.statement ⟨"print(row)".toList, by decide, by decide⟩ .empty .empty))
    (.statement ⟨"seen = [x for x in rows]".toList, by decide, by decide⟩ .empty .empty)

def rowSearchText : Text :=
  unlines (["for row in rows:", "", "    if row:", "        while left:", "  ",
    "            step()", "    print(row)", "seen = [x for x in rows]", ""].map String.toList)

theorem loopDepth_rowSearch :
    rowSearch.IsShownBy rowSearchText ∧ loopDepth rowSearchText .python = 2 := by
  have shown : rowSearch.IsShownBy rowSearchText := by unfold Block.IsShownBy; decide
  exact ⟨shown, loopDepth_of_isShownBy shown⟩

end SnippetGauge
