import SnippetGauge.Proofs.BlockComments
import SnippetGauge.Report

set_option autoImplicit false

namespace SnippetGauge

open Text

namespace Text

def endLines (parts : List Text) : Text := parts.flatMap (· ++ ['\n'])

theorem endLines_cons (line : Text) (later : List Text) :
    endLines (line :: later) = line ++ '\n' :: endLines later := by
  simp [endLines]

theorem unlines_append_break {parts : List Text} (filled : parts ≠ []) :
    unlines parts ++ ['\n'] = endLines parts := by
  induction parts with
  | nil => contradiction
  | cons line later ih =>
    by_cases last : later = []
    · subst last
      simp [unlines, endLines]
    · rw [unlines_cons line last, endLines_cons, ← ih last]
      simp

end Text

def addRemark (line : Text) : Option Text → Text
  | none => line
  | some remark => line ++ '#' :: remark

def addRemarks : List Text → List (Option Text) → List Text
  | [], _ => []
  | line :: later, [] => line :: later
  | line :: later, remark :: remarks => addRemark line remark :: addRemarks later remarks

/-- The source with a hash comment behind each line that has a remark in the list. -/
def remarked (source : Text) (remarks : List (Option Text)) : Text :=
  unlines (addRemarks (lines source) remarks)

/-- A remark inside of a block does not close it, and one outside leaves none open that a line
below closes. -/
def inertAt (inside : Bool) (below remark : Text) : Bool :=
  if inside then !closesBlock remark else !(endsInside false remark && closesBlock below)

/-- No block begins in a remark and ends behind it, or ends in a remark and begins before it. -/
def inertRemarks : (inside : Bool) → List Text → List (Option Text) → Bool
  | _, [], _ => true
  | _, _ :: _, [] => true
  | inside, line :: later, remark :: remarks =>
    remark.all (inertAt (endsInside inside line) (endLines (addRemarks later remarks))) &&
      inertRemarks (endsInside inside line) later remarks

def stripLine (line : Text) : Text := beforeHash (beforeSlashes line)

theorem startsApart_hash (rest : Text) : StartsApart ('#' :: rest) :=
  .cons (by decide) (by decide) rest

theorem beforeHash_append_hash (line remark : Text) :
    beforeHash (line ++ '#' :: remark) = beforeHash line := by
  unfold beforeHash
  induction line with
  | nil => rfl
  | cons c line ih => rw [List.cons_append, List.takeWhile_cons, List.takeWhile_cons, ih]

theorem stripLine_append_hash (line remark : Text) :
    stripLine (line ++ '#' :: remark) = stripLine line := by
  unfold stripLine
  fun_induction beforeSlashes line with
  | case1 => rfl
  | case2 rest => rfl
  | case3 c rest other ih =>
    rw [List.cons_append, beforeSlashes]
    · unfold beforeHash at ih ⊢
      rw [List.takeWhile_cons, List.takeWhile_cons, ih]
    · exact (startsApart_hash remark).no_mark (.inl rfl) other

theorem stripAllComments_eq (source : Text) :
    stripAllComments source = mapLines stripLine (eraseBlocks source) := by
  unfold stripAllComments stripHashComments stripSlashComments
  rw [mapLines, lines_mapLines_of_sublist beforeSlashes_sublist, List.map_map]
  rfl

theorem mapLines_endLines {change : Text → Text} (empty : change [] = []) {parts : List Text}
    (whole : ∀ line ∈ parts, '\n' ∉ line) :
    mapLines change (endLines parts) = endLines (parts.map change) := by
  induction parts with
  | nil => exact empty
  | cons line later ih =>
    rw [endLines_cons, mapLines_append_break _ (whole line (by simp)), List.map_cons,
      endLines_cons, ih fun other inside => whole other (by simp [inside])]

theorem mapLines_append_break_nil {change : Text → Text} (empty : change [] = []) (text : Text) :
    mapLines change (text ++ ['\n']) = mapLines change text ++ ['\n'] := by
  have whole : ∀ line ∈ lines text, '\n' ∉ line := fun _ => break_notMem_of_mem_lines
  have ended := unlines_append_break (lines_ne_nil text)
  rw [unlines_lines] at ended
  rw [ended, mapLines_endLines empty whole, mapLines, unlines_append_break]
  simp [lines_ne_nil]

theorem stripAllComments_append_break (source : Text) :
    stripAllComments (source ++ ['\n']) = stripAllComments source ++ ['\n'] := by
  have erased : eraseBlocks (source ++ ['\n']) = eraseBlocks source ++ ['\n'] :=
    eraseBlocksFrom_append_of_open (startsApart_break []) rfl (by simp)
  rw [stripAllComments_eq, stripAllComments_eq, erased, mapLines_append_break_nil rfl]

section

variable {line : Text} {parts later : List Text} {remark : Text} {remarks : List (Option Text)}
  {inside : Bool}

theorem break_notMem_addRemarks (whole : ∀ line ∈ parts, '\n' ∉ line)
    (single : ∀ remark, some remark ∈ remarks → '\n' ∉ remark) :
    ∀ line ∈ addRemarks parts remarks, '\n' ∉ line := by
  fun_induction addRemarks parts remarks with
  | case1 => exact whole
  | case2 => exact whole
  | case3 line later remark remarks ih =>
    simp only [List.mem_cons, forall_eq_or_imp] at whole ⊢
    refine ⟨?_, ih whole.2 fun other inside => single other (by simp [inside])⟩
    cases remark with
    | none => exact whole.1
    | some remark => simp [addRemark, whole.1, single remark]

theorem map_addRemarks {change : Text → Text}
    (blind : ∀ line remark, change (line ++ '#' :: remark) = change line)
    (parts : List Text) (remarks : List (Option Text)) :
    (addRemarks parts remarks).map change = parts.map change := by
  fun_induction addRemarks parts remarks with
  | case1 => rfl
  | case2 => rfl
  | case3 line later remark remarks ih =>
    rw [List.map_cons, List.map_cons, ih]
    cases remark with
    | none => rfl
    | some remark => rw [addRemark, blind]

theorem closesBlock_endLines_cons (line : Text) (later : List Text) :
    closesBlock (endLines (line :: later)) =
      (closesBlock line || closesBlock (endLines later)) := by
  rw [endLines_cons, closesBlock_append (startsApart_break _), closesBlock_cons_of_ne (by decide)]

theorem closesBlock_append_hash (line remark : Text) :
    closesBlock (line ++ '#' :: remark) = (closesBlock line || closesBlock remark) := by
  rw [closesBlock_append (startsApart_hash remark), closesBlock_cons_of_ne (by decide)]

theorem endsInside_append_hash (inside : Bool) (line remark : Text) :
    endsInside inside (line ++ '#' :: remark) = endsInside (endsInside inside line) remark := by
  rw [endsInside_append (startsApart_hash remark)]
  cases endsInside inside line <;> simp [endsInside]

theorem closesBlock_addRemarks (inert : inertRemarks true parts remarks = true) :
    closesBlock (endLines (addRemarks parts remarks)) = closesBlock (endLines parts) := by
  fun_induction addRemarks parts remarks with
  | case1 => rfl
  | case2 => rfl
  | case3 line later remark remarks ih =>
    rw [closesBlock_endLines_cons, closesBlock_endLines_cons]
    cases closes : closesBlock line with
    | true => cases remark <;> simp [addRemark, closesBlock_append_hash, closes]
    | false =>
      rw [inertRemarks, endsInside_of_not_closesBlock closes, Bool.and_eq_true] at inert
      rw [ih inert.2]
      cases remark with
      | none => simp [addRemark, closes]
      | some remark =>
        have quiet : closesBlock remark = false := by simpa [inertAt] using inert.1
        simp [addRemark, closesBlock_append_hash, closes, quiet]

theorem keptOfLine_append_hash {below other : Text} (single : '\n' ∉ remark)
    (entered : inside = true → closesBlock line = true ∨ closesBlock below = true)
    (inert : inertAt (endsInside inside line) other remark = true)
    (same : endsInside inside line = true → closesBlock other = closesBlock below) :
    carriesBlock inside (line ++ '#' :: remark) other = carriesBlock inside line below ∧
      stripLine (keptOfLine inside (line ++ '#' :: remark) other) =
        stripLine (keptOfLine inside line below) := by
  have apart := startsApart_hash remark
  unfold keptOfLine carriesBlock
  rw [endsInside_append_hash]
  cases ends : endsInside inside line with
  | true =>
    -- A block that is closed below takes the remark with it; one that is not stays, cut at the hash.
    have quiet : closesBlock remark = false := by simpa [inertAt, ends] using inert
    have hash : closesBlock ('#' :: remark) = false := by
      rwa [closesBlock_cons_of_ne (by decide)]
    rw [endsInside_of_not_closesBlock quiet, same ends]
    refine ⟨rfl, ?_⟩
    cases closes : closesBlock below with
    | true =>
      have nothing : outsideBlocks true ('#' :: remark) = [] := by
        rw [outsideBlocks_of_not_closesBlock hash, List.count_eq_zero.mpr (by simp [single])]
        rfl
      simp [outsideBlocks_append apart, ends, nothing]
    | false =>
      have within : inside = true → closesBlock line = true := by simpa [closes] using entered
      simp [eraseBlocksFrom_append_of_open apart hash within, stripLine_append_hash]
  | false =>
    have quiet : (endsInside false remark && closesBlock other) = false := by
      rw [ends, inertAt, if_neg Bool.false_ne_true, Bool.not_eq_true'] at inert
      exact inert
    have closed : endsInside inside line = true → closesBlock ('#' :: remark) = true := by
      simp [ends]
    have kept : eraseBlocksFrom inside (line ++ '#' :: remark) =
        eraseBlocksFrom inside line ++ '#' :: eraseBlocksFrom false remark := by
      rw [eraseBlocksFrom_append_of_closed apart closed, ends,
        eraseBlocksFrom_eq_outsideBlocks ends]
      simp [eraseBlocksFrom]
    simp [quiet, kept, stripLine_append_hash]

theorem keptOfLine_addRemark {below other : Text} {remark : Option Text}
    (single : ∀ text, remark = some text → '\n' ∉ text)
    (entered : inside = true → closesBlock line = true ∨ closesBlock below = true)
    (inert : remark.all (inertAt (endsInside inside line) other) = true)
    (same : endsInside inside line = true → closesBlock other = closesBlock below) :
    carriesBlock inside (addRemark line remark) other = carriesBlock inside line below ∧
      stripLine (keptOfLine inside (addRemark line remark) other) =
        stripLine (keptOfLine inside line below) := by
  cases remark with
  | some remark => exact keptOfLine_append_hash (single remark rfl) entered inert same
  | none =>
    have carries : carriesBlock inside line other = carriesBlock inside line below := by
      unfold carriesBlock
      cases ends : endsInside inside line with
      | true => rw [same ends]
      | false => rfl
    rw [addRemark, keptOfLine, keptOfLine, carries]
    exact ⟨rfl, rfl⟩

theorem stripped_of_not_closesBlock (whole : ∀ line ∈ parts, '\n' ∉ line)
    (unclosed : closesBlock (endLines parts) = false) :
    mapLines stripLine (eraseBlocksFrom false (endLines parts)) =
      endLines (parts.map stripLine) := by
  rw [eraseBlocksFrom_of_not_closesBlock unclosed, mapLines_endLines rfl whole]

theorem stripped_addRemarks (whole : ∀ line ∈ parts, '\n' ∉ line)
    (single : ∀ remark, some remark ∈ remarks → '\n' ∉ remark)
    (entered : inside = true → closesBlock (endLines parts) = true)
    (inert : inertRemarks inside parts remarks = true) :
    mapLines stripLine (eraseBlocksFrom inside (endLines (addRemarks parts remarks))) =
      mapLines stripLine (eraseBlocksFrom inside (endLines parts)) := by
  fun_induction addRemarks parts remarks generalizing inside with
  | case1 => rfl
  | case2 => rfl
  | case3 line later remark remarks ih =>
    have singleLater : ∀ remark, some remark ∈ remarks → '\n' ∉ remark :=
      fun other inside => single other (by simp [inside])
    have remarked := break_notMem_addRemarks whole single
    rw [addRemarks] at remarked
    simp only [List.mem_cons, forall_eq_or_imp] at whole remarked
    have enteredLine : inside = true → closesBlock line = true ∨
        closesBlock (endLines later) = true := by
      simpa [closesBlock_endLines_cons] using entered
    have enteredRemarked : inside = true → closesBlock (addRemark line remark) = true ∨
        closesBlock (endLines (addRemarks later remarks)) = true := by
      rintro rfl
      have closes := entered rfl
      rwa [← closesBlock_addRemarks inert, addRemarks, closesBlock_endLines_cons,
        Bool.or_eq_true] at closes
    rw [inertRemarks, Bool.and_eq_true] at inert
    -- Without this the code of a line could be kept in one text and erased in the other.
    have same (ends : endsInside inside line = true) :
        closesBlock (endLines (addRemarks later remarks)) = closesBlock (endLines later) := by
      rw [ends] at inert
      exact closesBlock_addRemarks inert.2
    have one (text : Text) (found : remark = some text) : '\n' ∉ text :=
      single text (by simp [found])
    obtain ⟨carries, kept⟩ := keptOfLine_addRemark one enteredLine inert.1 same
    rw [endLines_cons, endLines_cons, eraseBlocksFrom_line enteredLine,
      eraseBlocksFrom_line enteredRemarked,
      mapLines_append_break _ (break_notMem_keptOfLine whole.1 _),
      mapLines_append_break _ (break_notMem_keptOfLine remarked.1 _), kept, carries]
    congr 2
    cases ends : endsInside inside line with
    | false =>
      rw [ends] at inert
      simpa [carriesBlock, ends] using ih whole.2 singleLater (by simp) inert.2
    | true =>
      rw [ends] at inert
      cases closes : closesBlock (endLines later) with
      | true =>
        simpa [carriesBlock, ends, closes] using ih whole.2 singleLater (fun _ => closes) inert.2
      | false =>
        -- The block is never closed, so that no block is left below.
        have quiet := (same ends).trans closes
        rw [carriesBlock, closes, Bool.and_false, stripped_of_not_closesBlock remarked.2 quiet,
          stripped_of_not_closesBlock whole.2 closes, map_addRemarks stripLine_append_hash]

variable (source : Text)

theorem lines_remarked (single : ∀ remark, some remark ∈ remarks → '\n' ∉ remark) :
    lines (remarked source remarks) = addRemarks (lines source) remarks := by
  apply lines_unlines
  · obtain ⟨line, later, filled⟩ := exists_lines_eq source
    rw [filled]
    cases remarks <;> simp [addRemarks]
  · exact break_notMem_addRemarks (fun _ => break_notMem_of_mem_lines) single

theorem stripHashComments_remarked (single : ∀ remark, some remark ∈ remarks → '\n' ∉ remark) :
    stripHashComments (remarked source remarks) = stripHashComments source := by
  unfold stripHashComments mapLines
  rw [lines_remarked source single, map_addRemarks beforeHash_append_hash]

theorem stripAllComments_remarked (single : ∀ remark, some remark ∈ remarks → '\n' ∉ remark)
    (inert : inertRemarks false (lines source) remarks = true) :
    stripAllComments (remarked source remarks) = stripAllComments source := by
  have ended (text : Text) : text ++ ['\n'] = endLines (lines text) := by
    rw [← unlines_append_break (lines_ne_nil text), unlines_lines]
  have same := stripped_addRemarks (fun _ => break_notMem_of_mem_lines) single (by simp) inert
  rw [← lines_remarked source single, ← ended, ← ended] at same
  have whole : stripAllComments (remarked source remarks ++ ['\n']) =
      stripAllComments (source ++ ['\n']) := by
    rw [stripAllComments_eq, stripAllComments_eq]
    exact same
  rwa [stripAllComments_append_break, stripAllComments_append_break,
    List.append_cancel_right_eq] at whole

theorem analyze_remarked (source : Text) (remarks : List (Option Text))
    (single : ∀ remark, some remark ∈ remarks → '\n' ∉ remark) :
    (analyze (remarked source remarks) (some .python)).findings =
        (analyze source (some .python)).findings ∧
      (analyze (remarked source remarks) (some .python)).tokens =
        (analyze source (some .python)).tokens ∧
      (inertRemarks false (lines source) remarks = true →
        analyze (remarked source remarks) (some .python) = analyze source (some .python)) := by
  have hash := stripHashComments_remarked source single
  have findings : lint (remarked source remarks) .python = lint source .python := by
    simp only [lint, stripComments, hash]
  have tokens : tokenize (remarked source remarks) .python = tokenize source .python := by
    simp only [tokenize, stripComments, hash]
  refine ⟨findings, tokens, fun inert => ?_⟩
  have complexity : estimate (remarked source remarks) .python = estimate source .python := by
    simp only [estimate, stripAllComments_remarked source single inert]
  simp only [analyze, analyzeAs, Option.getD_some, findings, tokens, complexity]

end

def globLoop : Text := "x = glob('src/*')\nfor p in x:\n    pass".toList

def globRemarks : List (Option Text) := [some " all of src/*".toList, some " // and /* more".toList]

theorem analyze_globRemarks :
    (∀ remark, some remark ∈ globRemarks → '\n' ∉ remark) ∧
      inertRemarks false (lines globLoop) globRemarks = true ∧
        analyze (remarked globLoop globRemarks) (some .python) =
          analyze globLoop (some .python) := by
  have single : ∀ remark, some remark ∈ globRemarks → '\n' ∉ remark := by
    simp only [globRemarks, List.mem_cons, Option.some.injEq, List.not_mem_nil, or_false]
    rintro remark (rfl | rfl) <;> decide
  have inert : inertRemarks false (lines globLoop) globRemarks = true := by decide
  exact ⟨single, inert, (analyze_remarked globLoop globRemarks single).2.2 inert⟩

def loopBetween : Text := "x = 1\nfor i in y:\n    pass\nz = 2".toList

def openAndClose : List (Option Text) := [some " /*".toList, none, none, some " */".toList]

theorem not_inert_remarks :
    ¬ ∀ (source : Text) (remarks : List (Option Text)),
      (∀ remark, some remark ∈ remarks → '\n' ∉ remark) →
        analyze (remarked source remarks) (some .python) = analyze source (some .python) := by
  intro inert
  have single : ∀ remark, some remark ∈ openAndClose → '\n' ∉ remark := by
    simp only [openAndClose, List.mem_cons, Option.some.injEq, List.not_mem_nil, or_false]
    rintro remark (rfl | found | found | rfl)
    · decide
    · contradiction
    · contradiction
    · decide
  have same := congrArg Analysis.complexity (inert loopBetween openAndClose single)
  exact absurd same (by decide)

end SnippetGauge
