import SnippetGauge.Proofs.FindingOrder
import SnippetGauge.Proofs.Margins

set_option autoImplicit false

namespace SnippetGauge

open Text

def valuesOn (number : Nat) (tokens : List Token) : List Text :=
  (tokens.filter (·.line == number)).map (·.value)

theorem valuesOn_append (number : Nat) (first second : List Token) :
    valuesOn number (first ++ second) = valuesOn number first ++ valuesOn number second := by
  simp [valuesOn]

theorem valuesOn_eq_nil {number : Nat} {tokens : List Token}
    (other : ∀ token ∈ tokens, token.line ≠ number) : valuesOn number tokens = [] := by
  simpa [valuesOn] using other

theorem pieces_trim (line : Text) : pieces (trim line) = pieces line := by
  rw [← Margins.body_wide, wide_ignoredBy_pieces.read_body]

theorem valuesOn_tokenizeLine (language : Language) (number : Nat) (line : Text) :
    valuesOn number (tokenizeLine language number line) = pieces (trim line) := by
  have whole : (tokenizeLine language number line).filter (·.line == number) =
      tokenizeLine language number line := by
    apply List.filter_eq_self.mpr
    intro token inside
    simp [line_of_mem_tokenizeLine inside]
  rw [pieces_trim, valuesOn, whole, tokenizeLine, List.map_map]
  exact List.map_id _

theorem valuesOn_tokensFrom (language : Language) (first : Nat) {i : Nat} {source : List Text}
    {line : Text} (stands : source[i]? = some line) :
    valuesOn (first + i) (tokensFrom language first source) = pieces (trim line) := by
  induction source generalizing first i with
  | nil => simp at stands
  | cons above later ih =>
    rw [tokensFrom_cons, valuesOn_append]
    cases i with
    | zero =>
      obtain rfl : above = line := by simpa using stands
      have below : valuesOn first (tokensFrom language (first + 1) later) = [] := by
        apply valuesOn_eq_nil
        intro token inside
        have bounds := line_of_mem_tokensFrom inside
        omega
      rw [Nat.add_zero, below, List.append_nil, valuesOn_tokenizeLine]
    | succ i =>
      have here : valuesOn (first + (i + 1)) (tokenizeLine language first above) = [] := by
        apply valuesOn_eq_nil
        intro token inside
        rw [line_of_mem_tokenizeLine inside]
        omega
      have numbered : first + (i + 1) = first + 1 + i := by omega
      rw [here, List.nil_append, numbered]
      exact ih (first + 1) (by simpa using stands)

theorem valuesOn_tokenize {source line : Text} {language : Language} {i : Nat}
    (stands : (lines (stripComments source language))[i]? = some line) :
    valuesOn (i + 1) (tokenize source language) = pieces line := by
  have found := valuesOn_tokensFrom language 1 stands
  rw [Nat.add_comm 1 i, pieces_trim] at found
  exact found

-- Neither white space nor a mark: such characters stay together in a token.
def isSolid (c : Char) : Bool := !isBlank c && !isPunctuation c

section

variable {word : Text} (filled : word ≠ []) (solid : word.all isSolid = true)

theorem mem_consWord_of_ne_nil {piece word : Text} {later : List Text} (filled : piece ≠ [])
    (inside : piece ∈ word :: later) : piece ∈ consWord word later := by
  cases word with
  | nil => simpa [consWord, filled] using inside
  | cons c word => exact inside

include solid

theorem splitPieces_solid (rest : Text) :
    splitPieces (word ++ rest) = (word ++ (splitPieces rest).1, (splitPieces rest).2) := by
  induction word with
  | nil => rfl
  | cons c word ih =>
    simp only [List.all_cons, isSolid, Bool.and_eq_true, Bool.not_eq_true'] at solid
    rw [List.cons_append, splitPieces, ih solid.2]
    simp [solid.1]

include filled

theorem head?_pieces_solid (rest : Text) :
    (pieces (word ++ rest)).head? = some (word ++ (splitPieces rest).1) := by
  have some : (word ++ (splitPieces rest).1).isEmpty = false := by simp [filled]
  simp [pieces, splitPieces_solid solid, consWord, some]

theorem head?_pieces_of_blank (after : Text) :
    (pieces (word ++ ' ' :: after)).head? = some word := by
  have ends : (splitPieces (' ' :: after)).1 = [] := rfl
  rw [head?_pieces_solid filled solid, ends, List.append_nil]

theorem exists_piece_endingIn (before after : Text) :
    ∃ piece ∈ pieces (before ++ (word ++ ' ' :: after)), word <:+ piece := by
  have ne_nil {piece : Text} (ends : word <:+ piece) : piece ≠ [] := by
    rintro rfl
    exact filled (List.suffix_nil.mp ends)
  have split : ∃ piece ∈ (splitPieces (before ++ (word ++ ' ' :: after))).1 ::
      (splitPieces (before ++ (word ++ ' ' :: after))).2, word <:+ piece := by
    induction before with
    | nil =>
      have ends : (splitPieces (' ' :: after)).1 = [] := rfl
      rw [List.nil_append, splitPieces_solid solid, ends, List.append_nil]
      exact ⟨word, List.mem_cons_self, List.suffix_refl word⟩
    | cons c before ih =>
      obtain ⟨piece, inside, ends⟩ := ih
      have kept := mem_consWord_of_ne_nil (ne_nil ends) inside
      rw [List.cons_append, splitPieces]
      dsimp only
      split
      next => exact ⟨piece, List.mem_cons_of_mem _ kept, ends⟩
      next =>
        split
        next => exact ⟨piece, List.mem_cons_of_mem _ (List.mem_cons_of_mem _ kept), ends⟩
        next =>
          -- The character joins the first word.
          rcases List.mem_cons.mp inside with rfl | later
          next =>
            exact ⟨_, List.mem_cons_self, ends.trans (List.suffix_cons c _)⟩
          next => exact ⟨piece, List.mem_cons_of_mem _ later, ends⟩
  obtain ⟨piece, inside, ends⟩ := split
  exact ⟨piece, mem_consWord_of_ne_nil (ne_nil ends) inside, ends⟩

end

namespace Lint

def ReportedWhere (language : Language) (message : String) (shown : List Text → Prop) : Prop :=
  ∀ source, ∀ finding ∈ lint source language, finding.message = message →
    shown (valuesOn finding.line (tokenize source language))

theorem reportedWhere_of_check {language : Language} {rules : RuleSet}
    (known : rules? language = some rules) {check : LineCheck} (listed : check ∈ rules.lineChecks)
    {shown : List Text → Prop}
    (shows : ∀ line, check.applies line = true → shown (pieces line)) :
    ReportedWhere language check.advice.message shown := by
  intro source finding found same
  obtain ⟨fileMessages, worded⟩ := exists_worded known
  simp only [lint, known] at found
  have flagged := (flagged_iff known worded _ listed finding.line).mp ⟨finding, found, rfl, same⟩
  obtain ⟨positive, line, stands, _, _, applies⟩ := flagged
  have numbered : finding.line = finding.line - 1 + 1 := by omega
  rw [numbered, valuesOn_tokenize stands, ← pieces_trim]
  exact shows _ applies

def openerWords : List String := ["if", "elif", "else", "for", "while", "def", "class"]

def typeNames : List String := ["int", "String", "boolean", "double"]

theorem Python.opener_spelled : ∀ opener ∈ Python.blockOpeners, opener = "else" ∨
    ∃ word ∈ openerWords, opener.toList = word.toList ++ [' '] ∧ word.toList ≠ [] ∧
      word.toList.all isSolid = true := by
  decide

theorem Python.head?_pieces_of_lacksColon {line : Text} (lacks : Python.lacksColon line = true) :
    ∃ first, (pieces line).head? = some first ∧
      (first ∈ openerWords.map String.toList ∨ "else".toList <+: first) := by
  simp only [lacksColon, Bool.and_eq_true, startsWithAny, List.any_map, List.any_eq_true] at lacks
  obtain ⟨⟨opener, listed, starts⟩, _⟩ := lacks
  obtain ⟨rest, rfl⟩ := startsWith_iff.mp starts
  rcases opener_spelled opener listed with rfl | ⟨word, named, spelled, filled, solid⟩
  next =>
    exact ⟨_, head?_pieces_solid (by decide) (by decide) rest, .inr (List.prefix_append _ _)⟩
  next =>
    rw [spelled, List.append_assoc]
    exact ⟨_, head?_pieces_of_blank filled solid rest, .inl (List.mem_map_of_mem named)⟩

theorem exists_piece_of_mentions {phrase : String} {word line : Text}
    (spelled : phrase.toList = word ++ [' ']) (filled : word ≠ [])
    (solid : word.all isSolid = true) (found : mentions phrase line = true) :
    ∃ piece ∈ pieces line, word <:+ piece := by
  obtain ⟨before, after, rfl⟩ := occursIn_iff.mp found
  rw [spelled]
  simpa using exists_piece_endingIn filled solid before after

theorem Java.typeName_spelled : ∀ phrase ∈ ["int ", "String ", "boolean ", "double "],
    ∃ name ∈ typeNames, phrase.toList = name.toList ++ [' '] ∧ name.toList ≠ [] ∧
      name.toList.all isSolid = true := by
  decide

theorem Java.exists_piece_of_isUninitialized {line : Text}
    (uninitialized : Java.isUninitialized line = true) :
    ∃ piece ∈ pieces line, ∃ name ∈ typeNames, name.toList <:+ piece := by
  rw [isUninitialized, Bool.and_eq_true, Bool.and_eq_true, List.any_eq_true] at uninitialized
  obtain ⟨⟨⟨phrase, listed, found⟩, _⟩, _⟩ := uninitialized
  obtain ⟨name, named, spelled, filled, solid⟩ := typeName_spelled phrase listed
  obtain ⟨piece, inside, ends⟩ := exists_piece_of_mentions spelled filled solid found
  exact ⟨piece, inside, name, named, ends⟩

/-- The findings that keywords give rise to are on lines with these keywords, or with longer words
that begin or end with them. -/
theorem keywordFindings_shown :
    ReportedWhere .python "Missing colon at the end of statement"
      (fun values => ∃ first, values.head? = some first ∧
        (first ∈ openerWords.map String.toList ∨ "else".toList <+: first)) ∧
    ReportedWhere .python "Incorrect print syntax (Python 3)"
      (fun values => ∃ value ∈ values, "print".toList <:+ value) ∧
    ReportedWhere .java "Variable declared but not initialized"
      (fun values => ∃ value ∈ values, ∃ name ∈ typeNames, name.toList <:+ value) := by
  refine ⟨?_, ?_, ?_⟩
  next =>
    have listed : ⟨⟨"Missing colon at the end of statement", "Add ':' at the end of this line"⟩,
        Python.lacksColon⟩ ∈ Python.rules.lineChecks := List.mem_cons_self
    exact reportedWhere_of_check rfl listed fun _ => Python.head?_pieces_of_lacksColon
  next =>
    have listed : ⟨⟨"Incorrect print syntax (Python 3)", "Use print() with parentheses in Python 3"⟩,
        Python.isPrintStatement⟩ ∈ Python.rules.lineChecks :=
      List.mem_cons_of_mem _ List.mem_cons_self
    refine reportedWhere_of_check rfl listed fun line prints => ?_
    exact exists_piece_of_mentions rfl (by decide) (by decide) (Bool.and_eq_true_iff.mp prints).1
  next =>
    have listed : ⟨⟨"Variable declared but not initialized",
        "Consider initializing this variable with a default value"⟩,
        Java.isUninitialized⟩ ∈ Java.rules.lineChecks :=
      List.mem_cons_of_mem _ List.mem_cons_self
    exact reportedWhere_of_check rfl listed fun _ => Java.exists_piece_of_isUninitialized

theorem not_keywordFindings_whole :
    ¬ ReportedWhere .python "Missing colon at the end of statement"
        (fun values => ∃ first, values.head? = some first ∧
          first ∈ openerWords.map String.toList) ∧
      ¬ ReportedWhere .python "Incorrect print syntax (Python 3)"
        (fun values => "print".toList ∈ values) ∧
      ¬ ReportedWhere .java "Variable declared but not initialized"
        (fun values => ∃ name ∈ typeNames, name.toList ∈ values) := by
  refine ⟨?_, ?_, ?_⟩
  next =>
    intro reported
    have found : ⟨1, "Missing colon at the end of statement", "Add ':' at the end of this line"⟩ ∈
        lint "elsewhere = 1".toList .python := by decide
    obtain ⟨first, heads, named⟩ := reported _ _ found rfl
    have shown : valuesOn 1 (tokenize "elsewhere = 1".toList .python) =
        ["elsewhere".toList, "=".toList, "1".toList] := by decide
    rw [shown] at heads
    obtain rfl := Option.some.inj heads
    revert named
    decide
  next =>
    intro reported
    have found : ⟨1, "Incorrect print syntax (Python 3)", "Use print() with parentheses in Python 3"⟩
        ∈ lint "sprint x".toList .python := by decide
    have shown := reported _ _ found rfl
    revert shown
    decide
  next =>
    intro reported
    have found : ⟨1, "Variable declared but not initialized",
        "Consider initializing this variable with a default value"⟩ ∈
        lint "Point p;".toList .java := by decide
    have shown := reported _ _ found rfl
    revert shown
    decide

end Lint

end SnippetGauge
