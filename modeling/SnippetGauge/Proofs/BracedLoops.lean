import SnippetGauge.Complexity.LoopDepth
import SnippetGauge.Proofs.Lines

set_option autoImplicit false

namespace SnippetGauge

open Text

structure PlainLine where
  text : Text
  single : '\n' ∉ text
  unclosed : '\x7d' ∉ text
  noLoop : hasLoopWord text = false

structure BlockHeader where
  text : Text
  single : '\n' ∉ text
  unclosed : '\x7d' ∉ text

structure BlockEnd where
  text : Text
  single : '\n' ∉ text
  closes : '\x7d' ∈ text
  nothingElse : text.all (fun c => c == '\x7d' || isBlank c) = true

def BlockHeader.isLoop (header : BlockHeader) : Bool := hasLoopWord header.text

def BlockHeader.loops (header : BlockHeader) : Nat := if header.isLoop then 1 else 0

theorem BlockHeader.loops_le (header : BlockHeader) : header.loops ≤ 1 := by
  cases loop : header.isLoop <;> simp [loops, loop]

inductive BracedCode where
  | empty
  | plain (line : PlainLine) (later : BracedCode)
  | block (header : BlockHeader) (inner : BracedCode) (close : BlockEnd) (later : BracedCode)

namespace BracedCode

def rows : BracedCode → List Text
  | empty => []
  | plain line later => line.text :: later.rows
  | block header inner close later => header.text :: (inner.rows ++ close.text :: later.rows)

def loopNesting : BracedCode → Nat
  | empty => 0
  | plain _ later => later.loopNesting
  | block header inner _ later =>
    max (header.loops + inner.loopNesting) later.loopNesting

def OnlyLoops : BracedCode → Prop
  | empty => True
  | plain _ later => later.OnlyLoops
  | block header inner _ later => header.isLoop = true ∧ inner.OnlyLoops ∧ later.OnlyLoops

theorem break_notMem_of_mem_rows {code : BracedCode} {row : Text} (inside : row ∈ code.rows) :
    '\n' ∉ row := by
  induction code with
  | empty => simp [rows] at inside
  | plain line later ih =>
    rcases List.mem_cons.mp inside with rfl | inside
    · exact line.single
    · exact ih inside
  | block header inner close later ihInner ihLater =>
    simp only [rows, List.mem_cons, List.mem_append] at inside
    rcases inside with rfl | inside | rfl | inside
    · exact header.single
    · exact ihInner inside
    · exact close.single
    · exact ihLater inside

end BracedCode

theorem word_subset_of_mem_sitesFrom {text : Text} {inside : Bool} {site : WordSite}
    (found : site ∈ sitesFrom inside text) : site.word ⊆ text := by
  induction text generalizing inside with
  | nil => simp [sitesFrom] at found
  | cons c rest ih =>
    have later (inside : Bool) (found : site ∈ sitesFrom inside rest) : site.word ⊆ c :: rest :=
      fun _ member => List.mem_cons_of_mem c (ih found member)
    simp only [sitesFrom] at found
    split at found
    next =>
      split at found
      next => exact later true found
      next =>
        rcases List.mem_cons.mp found with rfl | found
        · exact List.cons_subset_cons c (List.takeWhile_subset _)
        · exact later true found
    next => exact later false found

theorem letter_mem_of_hasLoopWord {text : Text} (loop : hasLoopWord text = true) :
    'f' ∈ text ∨ 'w' ∈ text := by
  obtain ⟨word, inside, which⟩ := List.any_eq_true.mp loop
  obtain ⟨site, found, rfl⟩ := List.mem_map.mp inside
  have letters := word_subset_of_mem_sitesFrom found
  simp only [Bool.or_eq_true, beq_iff_eq] at which
  rcases which with spelled | spelled
  · exact .inl (letters (by simp [spelled]))
  · exact .inr (letters (by simp [spelled]))

theorem BlockEnd.hasLoopWord_eq (close : BlockEnd) : hasLoopWord close.text = false := by
  have other (letter : Char) (brace : letter ≠ '\x7d') (filled : isBlank letter = false) :
      letter ∉ close.text := by
    intro inside
    have allowed := List.all_eq_true.mp close.nothingElse letter inside
    simp [brace, filled] at allowed
  by_contra loop
  rcases letter_mem_of_hasLoopWord (by simpa using loop) with inside | inside
  · exact other 'f' (by decide) (by decide) inside
  · exact other 'w' (by decide) (by decide) inside

namespace BraceScan

variable (scan : BraceScan)

theorem line_plain (plain : PlainLine) :
    scan.line plain.text = ⟨scan.depth, max scan.deepest scan.depth⟩ := by
  simp [line, plain.noLoop, plain.unclosed]

theorem line_header (header : BlockHeader) :
    scan.line header.text =
      ⟨scan.depth + header.loops, max scan.deepest (scan.depth + header.loops)⟩ := by
  cases loop : hasLoopWord header.text <;>
    simp [line, header.unclosed, BlockHeader.loops, BlockHeader.isLoop, loop]

theorem line_end (close : BlockEnd) :
    scan.line close.text = ⟨scan.depth - 1, max scan.deepest scan.depth⟩ := by
  simp [line, close.hasLoopWord_eq, close.closes]

theorem depth_le_deepest_line (row : Text) :
    (scan.line row).depth ≤ (scan.line row).deepest := by
  simp only [line]
  split <;> omega

theorem foldl_rows_le (code : BracedCode) :
    let after := code.rows.foldl line scan
    after.depth ≤ scan.depth ∧
      after.deepest ≤ max scan.deepest (scan.depth + code.loopNesting) := by
  induction code generalizing scan with
  | empty => exact ⟨Nat.le_refl _, Nat.le_max_left _ _⟩
  | plain plain later ih =>
    have rest := ih (scan.line plain.text)
    simp only [BracedCode.rows, BracedCode.loopNesting, List.foldl_cons, line_plain] at rest ⊢
    omega
  | block header inner close later ihInner ihLater =>
    have within := ihInner (scan.line header.text)
    simp only [BracedCode.rows, BracedCode.loopNesting, List.foldl_cons, List.foldl_append]
    generalize inner.rows.foldl line (scan.line header.text) = nested at within ⊢
    have rest := ihLater (nested.line close.text)
    simp only [line_header] at within
    simp only [line_end] at rest ⊢
    -- The end of a block takes one off the depth, also where its header put nothing on.
    have below : nested.depth - 1 ≤ scan.depth := by
      have once := header.loops_le
      omega
    omega

theorem foldl_rows_eq {code : BracedCode} (loops : code.OnlyLoops)
    (within : scan.depth ≤ scan.deepest) :
    let after := code.rows.foldl line scan
    after.depth = scan.depth ∧
      after.deepest = max scan.deepest (scan.depth + code.loopNesting) := by
  induction code generalizing scan with
  | empty => simp [BracedCode.rows, BracedCode.loopNesting, within]
  | plain plain later ih =>
    have rest := ih (scan.line plain.text) loops (scan.depth_le_deepest_line _)
    simp only [BracedCode.rows, BracedCode.loopNesting, List.foldl_cons, line_plain] at rest ⊢
    omega
  | block header inner close later ihInner ihLater =>
    obtain ⟨loop, loopsInner, loopsLater⟩ := loops
    have one : header.loops = 1 := by simp [BlockHeader.loops, loop]
    have inside := ihInner (scan.line header.text) loopsInner (scan.depth_le_deepest_line _)
    simp only [BracedCode.rows, BracedCode.loopNesting, List.foldl_cons, List.foldl_append]
    generalize inner.rows.foldl line (scan.line header.text) = nested at inside ⊢
    simp only [line_header, one] at inside
    have rest := ihLater (nested.line close.text) loopsLater (nested.depth_le_deepest_line _)
    simp only [line_end] at rest ⊢
    omega

end BraceScan

theorem braceDepth_unlines {rows : List Text} (single : ∀ row ∈ rows, '\n' ∉ row) :
    braceDepth (lines (unlines rows)) = braceDepth rows := by
  by_cases bare : rows = []
  next =>
    subst bare
    decide
  next => rw [lines_unlines bare single]

/-- The brace scan never counts more loops in one another than there are, and it counts them all
where every block is a loop. -/
theorem loopDepth_bracedCode (code : BracedCode) (language : Language)
    (braces : language ≠ .python) :
    loopDepth (unlines code.rows) language ≤ code.loopNesting ∧
      (code.OnlyLoops → loopDepth (unlines code.rows) language = code.loopNesting) := by
  have scanned : loopDepth (unlines code.rows) language = braceDepth code.rows := by
    rw [← braceDepth_unlines fun row => code.break_notMem_of_mem_rows]
    cases language with
    | python => exact absurd rfl braces
    | cpp | java | unidentified => rfl
  rw [scanned, braceDepth]
  constructor
  · simpa using (BraceScan.foldl_rows_le ⟨0, 0⟩ code).2
  · intro loops
    simpa using (BraceScan.foldl_rows_eq ⟨0, 0⟩ loops (Nat.le_refl 0)).2

def closingBrace : BlockEnd where
  text := "  \x7d".toList
  single := by decide
  closes := by decide
  nothingElse := by decide

def nestedLoops : BracedCode :=
  .block ⟨"for (Row row : rows) \x7b".toList, by decide, by decide⟩
    (.block ⟨"  while (row.left()) \x7b".toList, by decide, by decide⟩
      (.plain ⟨"    row.step();".toList, by decide, by decide, by decide⟩ .empty)
      closingBrace .empty)
    closingBrace .empty

theorem loopDepth_nestedLoops :
    Language.java ≠ .python ∧ nestedLoops.OnlyLoops ∧
      loopDepth (unlines nestedLoops.rows) .java = 2 := by
  have loops : nestedLoops.OnlyLoops := ⟨by decide, ⟨by decide, trivial, trivial⟩, trivial⟩
  have found := (loopDepth_bracedCode nestedLoops .java (by decide)).2 loops
  exact ⟨by decide, loops, found.trans (by decide)⟩

-- The end of the branch is taken for the end of the loop around it.
def loopBelowBranch : BracedCode :=
  .block ⟨"for (Row row : rows) \x7b".toList, by decide, by decide⟩
    (.block ⟨"  if (row.done()) \x7b".toList, by decide, by decide⟩ .empty closingBrace
      (.block ⟨"  while (row.left()) \x7b".toList, by decide, by decide⟩ .empty
        closingBrace .empty))
    closingBrace .empty

example : loopDepth (unlines loopBelowBranch.rows) .cpp = 1 ∧ loopBelowBranch.loopNesting = 2 := by
  decide

end SnippetGauge
