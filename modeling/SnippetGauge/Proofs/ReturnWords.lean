import Mathlib.Data.List.TakeWhile
import SnippetGauge.Complexity.Declaration
import SnippetGauge.Complexity.Estimate
import SnippetGauge.Proofs.ReturnComments

set_option autoImplicit false

namespace SnippetGauge

open Text

namespace Text

theorem isBlankText_dropReturns (text : Text) :
    isBlankText (dropReturns text) = isBlankText text := by
  induction text with
  | nil => rfl
  | cons c rest ih =>
    unfold isBlankText at ih ⊢
    by_cases dropped : c = '\r'
    · subst dropped
      rw [dropReturns_return, ih]
      rfl
    · rw [dropReturns_cons dropped, List.all_cons, List.all_cons, ih]

theorem nextIs_dropReturns (mark : Char) (text : Text) :
    nextIs mark (dropReturns text) = nextIs mark text := by
  unfold nextIs trimStart
  induction text with
  | nil => rfl
  | cons c rest ih =>
    by_cases dropped : c = '\r'
    · subst dropped
      exact ih
    · rw [dropReturns_cons dropped]
      by_cases blank : isBlank c = true
      · rw [List.dropWhile_cons_of_pos blank, List.dropWhile_cons_of_pos blank, ih]
      · rw [List.dropWhile_cons_of_neg blank, List.dropWhile_cons_of_neg blank]
        rfl

theorem return_notMem_leadingWord (text : Text) : '\r' ∉ leadingWord text := by
  intro inside
  exact absurd (List.mem_takeWhile_imp inside) (by decide)

theorem leadingWord_dropReturns {text : Text} (h : ReturnsEndLines text) :
    leadingWord (dropReturns text) = leadingWord text := by
  unfold leadingWord
  rw [takeWhile_dropReturns h (.inr rfl)]
  exact dropReturns_eq_self (return_notMem_leadingWord text)

namespace WordSite

def dropReturns (site : WordSite) : WordSite := ⟨site.word, Text.dropReturns site.after⟩

@[simp] theorem dropReturns_word (site : WordSite) : site.dropReturns.word = site.word := rfl

@[simp] theorem dropReturns_isCall (site : WordSite) : site.dropReturns.isCall = site.isCall :=
  nextIs_dropReturns '(' site.after

@[simp] theorem dropReturns_blankToNext (site : WordSite) :
    site.dropReturns.blankToNext = site.blankToNext := by
  have gap : (Text.dropReturns site.after).takeWhile (!isWordChar ·) =
      Text.dropReturns (site.after.takeWhile (!isWordChar ·)) :=
    takeWhile_dropReturns_of_pos rfl site.after
  unfold blankToNext dropReturns
  rw [gap, isBlankText_dropReturns]

end WordSite

theorem sitesFrom_dropReturns {text : Text} (h : ReturnsEndLines text) (inside : Bool) :
    sitesFrom inside (dropReturns text) = (sitesFrom inside text).map WordSite.dropReturns := by
  induction text, h using ReturnsEndLines.induct_ends generalizing inside with
  | nil => rfl
  | last => rfl
  | lineEnd rest h ih =>
    -- The line feed ends a word as well as the carriage return does.
    exact ih false
  | cons c rest h plain ih =>
    have ends : isWordChar '\n' = false := rfl
    rw [dropReturns_cons plain]
    by_cases goes : isWordChar c = true
    · cases inside with
      | true => simp [sitesFrom, goes, ih]
      | false =>
        simp [sitesFrom, goes, ih, WordSite.dropReturns, leadingWord_dropReturns h.tail,
          dropWhile_dropReturns h.tail (.inr ends)]
    · simp [sitesFrom, goes, ih]

theorem wordSites_dropReturns {text : Text} (h : ReturnsEndLines text) :
    wordSites (dropReturns text) = (wordSites text).map WordSite.dropReturns :=
  sitesFrom_dropReturns h false

theorem words_dropReturns {text : Text} (h : ReturnsEndLines text) :
    words (dropReturns text) = words text := by
  unfold words
  rw [wordSites_dropReturns h, List.map_map]
  rfl

theorem callCount_dropReturns {text : Text} (h : ReturnsEndLines text) (name : Text) :
    callCount name (dropReturns text) = callCount name text := by
  unfold callCount
  rw [wordSites_dropReturns h, List.countP_map]
  congr 1
  funext site
  simp

end Text

theorem namesAfter_dropReturns (heads : List String) (needsCall : Bool) (sites : List WordSite) :
    namesAfter heads needsCall (sites.map WordSite.dropReturns) =
      namesAfter heads needsCall sites := by
  fun_induction namesAfter heads needsCall sites with
  | case1 => rfl
  | case2 site => rfl
  | case3 head name later taken ih => simp [namesAfter, taken, ih]
  | case4 head name later other ih => simpa [namesAfter, other] using ih

theorem hasLoopWord_dropReturns {line : Text} (h : ReturnsEndLines line) :
    hasLoopWord (dropReturns line) = hasLoopWord line := by
  unfold hasLoopWord
  rw [words_dropReturns h]

theorem braceScan_dropReturns {line : Text} (h : ReturnsEndLines line) (scan : BraceScan) :
    scan.line (dropReturns line) = scan.line line := by
  unfold BraceScan.line
  rw [hasLoopWord_dropReturns h, contains_dropReturns (by decide)]

theorem return_notMem_takeWhile_isBlank {line : Text} (h : ReturnsEndLines line)
    (single : '\n' ∉ line) (filled : isBlankText line = false) :
    '\r' ∉ line.takeWhile isBlank := by
  induction line, h using ReturnsEndLines.induct_ends with
  | nil => simp
  | last => exact absurd filled (by decide)
  | lineEnd rest h ih => simp at single
  | cons c rest h plain ih =>
    by_cases blank : isBlank c = true
    · have more : isBlankText rest = false := by
        simpa [isBlankText, blank] using filled
      rw [List.takeWhile_cons_of_pos blank, List.mem_cons, not_or]
      exact ⟨Ne.symm plain, ih (fun inside => single (by simp [inside])) more⟩
    · rw [List.takeWhile_cons_of_neg blank]
      simp

theorem leadingBlanks_dropReturns {line : Text} (h : ReturnsEndLines line)
    (single : '\n' ∉ line) (filled : isBlankText line = false) :
    leadingBlanks (dropReturns line) = leadingBlanks line := by
  unfold leadingBlanks
  rw [takeWhile_dropReturns_of_pos rfl,
    dropReturns_eq_self (return_notMem_takeWhile_isBlank h single filled)]

theorem indentScan_dropReturns {line : Text} (h : ReturnsEndLines line) (single : '\n' ∉ line)
    (scan : IndentScan) : scan.line (dropReturns line) = scan.line line := by
  unfold IndentScan.line indentLevel
  rw [isBlankText_dropReturns]
  cases filled : isBlankText line with
  | true => rfl
  | false => rw [hasLoopWord_dropReturns h, leadingBlanks_dropReturns h single filled]

theorem loopDepth_dropReturns {code : Text} (h : ReturnsEndLines code) (language : Language) :
    loopDepth (dropReturns code) language = loopDepth code language := by
  unfold loopDepth braceDepth indentDepth
  rw [lines_dropReturns, List.foldl_map, List.foldl_map]
  have braces : (lines code).foldl (fun scan line => scan.line (dropReturns line)) ⟨0, 0⟩ =
      (lines code).foldl BraceScan.line ⟨0, 0⟩ :=
    List.foldl_ext _ _ _ fun scan line inside =>
      braceScan_dropReturns (h.of_mem_lines inside) scan
  have indents : (lines code).foldl (fun scan line => scan.line (dropReturns line)) ⟨[], 0⟩ =
      (lines code).foldl IndentScan.line ⟨[], 0⟩ :=
    List.foldl_ext _ _ _ fun scan line inside =>
      indentScan_dropReturns (h.of_mem_lines inside) (break_notMem_of_mem_lines inside) scan
  rw [braces, indents]

theorem callsSort_dropReturns {code : Text} (h : ReturnsEndLines code) :
    callsSort (dropReturns code) = callsSort code := by
  unfold callsSort
  rw [wordSites_dropReturns h, List.any_map]
  congr 1
  funext site
  simp

theorem notes_dropReturns {code : Text} (h : ReturnsEndLines code) :
    notes (dropReturns code) = notes code := by
  unfold notes usesHashContainer
  rw [callsSort_dropReturns h, words_dropReturns h]

end SnippetGauge
