import Mathlib.Data.List.Perm.Subperm
import SnippetGauge.Proofs.BlankRuns
import SnippetGauge.Proofs.TokenShapes
import SnippetGauge.Proofs.TrackedLines

set_option autoImplicit false

namespace SnippetGauge

open Text

namespace TokenCategory

def shapes : List TokenCategory := [operator, number, string, delimiter, identifier]

def checks : List TokenCategory := keyword :: shapes

def fits (language : Language) (token : Text) : TokenCategory → Bool
  | keyword => isReserved language (trim token)
  | operator => isOperatorText (dropFinalBreak token)
  | number => isNumberText (dropFinalBreak token)
  | string => isQuotedText token
  | delimiter => isDelimiterText (dropFinalBreak token)
  | identifier => isIdentifierText (dropFinalBreak token)
  | other => false

-- The only shape that a token with this first character can have.
def shapeOf (first : Char) : TokenCategory :=
  if isLetter first || first == '_' then identifier
  else if isDigit first then number
  else if isOperatorChar first then operator
  else if isDelimiterChar first then delimiter
  else if first == '"' || first == '\'' then string
  else other

def leadingShape (token : Text) : Option TokenCategory := token.head?.map shapeOf

end TokenCategory

open TokenCategory

def categorizeBy (order : List TokenCategory) (language : Language) (token : Text) :
    TokenCategory :=
  (order.find? (fits language token)).getD other

theorem categorizeBy_checks (language : Language) (token : Text) :
    categorizeBy checks language token = categorize language token := by
  simp only [categorizeBy, checks, shapes, categorize, List.find?_cons, fits]
  split_ifs <;> simp_all

section

variable {c : Char} {token : Text} {language : Language} {shape first second : TokenCategory}

theorem shapeOf_of_isDigit (digit : isDigit c = true) : shapeOf c = number := by
  have letter : isLetter c = false := by
    rw [Bool.eq_false_iff]
    intro found
    simp [not_isDigit_of_isLetter found] at digit
  have line : c ≠ '_' := by
    rintro rfl
    exact absurd digit (by decide)
  simp [shapeOf, letter, line, digit]

theorem shapeOf_of_isOperatorChar (marks : isOperatorChar c = true) : shapeOf c = operator := by
  have each : ∀ d ∈ operatorMarks, shapeOf d = operator := List.all_iff_forall_prop.mp (by decide)
  exact each c (isOperatorChar_iff.mp marks)

theorem shapeOf_of_isDelimiterChar (marks : isDelimiterChar c = true) : shapeOf c = delimiter := by
  have each : ∀ d ∈ delimiterMarks, shapeOf d = delimiter := List.all_iff_forall_prop.mp (by decide)
  exact each c (isDelimiterChar_iff.mp marks)

theorem shapeOf_of_isBlank (white : isBlank c = true) : shapeOf c = other :=
  of_isBlank (shapeOf · = other) (by decide) white

theorem leadingShape_operator (spelled : isOperatorText token = true) :
    leadingShape token = some operator := by
  cases token with
  | nil => simp [isOperatorText] at spelled
  | cons c rest =>
    have marks : isOperatorChar c = true ∧ rest.all isOperatorChar = true := by
      simpa [isOperatorText] using spelled
    exact congrArg some (shapeOf_of_isOperatorChar marks.1)

theorem leadingShape_number (spelled : isNumberText token = true) :
    leadingShape token = some number := by
  cases token with
  | nil => simp [isNumberText] at spelled
  | cons c rest =>
    have digit : isDigit c = true := by
      by_contra found
      simp [isNumberText, List.takeWhile_cons_of_neg found] at spelled
    exact congrArg some (shapeOf_of_isDigit digit)

theorem leadingShape_string (spelled : isQuotedText token = true) :
    leadingShape token = some string := by
  have each : ∀ quote ∈ ['"', '\''], shapeOf quote = string :=
    List.all_iff_forall_prop.mp (by decide)
  obtain ⟨quote, listed, ends⟩ := List.any_eq_true.mp spelled
  rw [Bool.and_eq_true, beq_iff_eq, beq_iff_eq] at ends
  rw [leadingShape, ends.1]
  exact congrArg some (each quote listed)

theorem leadingShape_delimiter (spelled : isDelimiterText token = true) :
    leadingShape token = some delimiter := by
  unfold isDelimiterText at spelled
  split at spelled
  next c => exact congrArg some (shapeOf_of_isDelimiterChar spelled)
  next => contradiction

theorem leadingShape_identifier (spelled : isIdentifierText token = true) :
    leadingShape token = some identifier := by
  cases token with
  | nil => simp [isIdentifierText] at spelled
  | cons c rest =>
    have starts : (isLetter c || c == '_') = true := by
      rw [isIdentifierText, Bool.and_eq_true] at spelled
      exact spelled.1
    simp [leadingShape, shapeOf, starts]

theorem leadingShape_of_dropFinalBreak (leads : leadingShape (dropFinalBreak token) = some shape) :
    leadingShape token = some shape := by
  have starts : dropFinalBreak token <+: token := by
    unfold dropFinalBreak
    split
    next => exact List.dropLast_prefix token
    next => exact List.prefix_rfl
  obtain ⟨rest, whole⟩ := starts
  obtain ⟨c, first, same⟩ := Option.map_eq_some_iff.mp leads
  rw [← whole, leadingShape, List.head?_append, first]
  exact congrArg some same

theorem leadingShape_of_fits (tested : shape ∈ shapes) (fit : fits language token shape = true) :
    leadingShape token = some shape := by
  cases shape with
  | operator => exact leadingShape_of_dropFinalBreak (leadingShape_operator fit)
  | number => exact leadingShape_of_dropFinalBreak (leadingShape_number fit)
  | string => exact leadingShape_string fit
  | delimiter => exact leadingShape_of_dropFinalBreak (leadingShape_delimiter fit)
  | identifier => exact leadingShape_of_dropFinalBreak (leadingShape_identifier fit)
  | keyword | other => exact absurd tested (by decide)

theorem leadingShape_of_reserved (reserved : fits language token keyword = true) :
    leadingShape token = some identifier ∨ leadingShape token = some other := by
  obtain ⟨filled, letters⟩ := (isReserved_iff.mp reserved).isLetters
  cases token with
  | nil => exact absurd rfl filled
  | cons c rest =>
    by_cases white : isBlank c = true
    next => exact .inr (congrArg some (shapeOf_of_isBlank white))
    next =>
      obtain ⟨tail, _, whole⟩ := exists_trimEnd (c :: rest)
      rw [trim, trimStart_cons_of_filled rest white] at filled letters
      obtain ⟨d, word, spelled⟩ := List.exists_cons_of_ne_nil filled
      rw [spelled] at letters whole
      obtain ⟨rfl, _⟩ := List.cons.inj whole
      have letter : isLetter c = true := List.all_eq_true.mp letters c List.mem_cons_self
      exact .inl (by simp [leadingShape, shapeOf, letter])

theorem eq_of_fits_of_shapes (tested : first ∈ shapes) (testedToo : second ∈ shapes)
    (fit : fits language token first = true) (fitToo : fits language token second = true) :
    first = second := by
  have leads := leadingShape_of_fits tested fit
  rw [leadingShape_of_fits testedToo fitToo] at leads
  exact (Option.some.inj leads).symm

theorem eq_identifier_of_reserved (reserved : fits language token keyword = true)
    (tested : shape ∈ shapes) (fit : fits language token shape = true) : shape = identifier := by
  have leads := leadingShape_of_fits tested fit
  rcases leadingShape_of_reserved reserved with letter | white
  next => exact Option.some.inj (leads.symm.trans letter)
  next =>
    obtain rfl := Option.some.inj (leads.symm.trans white)
    exact absurd tested (by decide)

theorem eq_of_fits (listed : first ∈ checks) (listedToo : second ∈ checks)
    (fit : fits language token first = true) (fitToo : fits language token second = true) :
    first = second ∨
      (fits language token keyword = true ∧ fits language token identifier = true) := by
  rcases List.mem_cons.mp listed with rfl | tested
  next =>
    rcases List.mem_cons.mp listedToo with rfl | testedToo
    next => exact .inl rfl
    next =>
      obtain rfl := eq_identifier_of_reserved fit testedToo fitToo
      exact .inr ⟨fit, fitToo⟩
  next =>
    rcases List.mem_cons.mp listedToo with rfl | testedToo
    next =>
      obtain rfl := eq_identifier_of_reserved fitToo tested fit
      exact .inr ⟨fitToo, fit⟩
    next => exact .inl (eq_of_fits_of_shapes tested testedToo fit fitToo)

end

section

variable {order : List TokenCategory} {language : Language} {token : Text}

theorem filter_fits_of_both (listed : order ⊆ checks) (distinct : order.Nodup)
    (keywordFirst : [keyword, identifier].Sublist order)
    (reserved : fits language token keyword = true)
    (named : fits language token identifier = true) :
    order.filter (fits language token) = [keyword, identifier] := by
  have kept : [keyword, identifier].Sublist (order.filter (fits language token)) := by
    have both : [keyword, identifier].filter (fits language token) = [keyword, identifier] :=
      List.filter_eq_self.mpr (by simp [reserved, named])
    rw [← both]
    exact keywordFirst.filter _
  have only : order.filter (fits language token) ⊆ [keyword, identifier] := by
    intro shape inside
    obtain ⟨there, fit⟩ := List.mem_filter.mp inside
    rcases List.mem_cons.mp (listed there) with rfl | tested
    next => simp
    next => simp [eq_identifier_of_reserved reserved tested fit]
  have bound := ((distinct.filter _).subperm only).length_le
  exact (kept.eq_of_length_le bound).symm

theorem filter_fits_eq (permuted : order.Perm checks)
    (keywordFirst : [keyword, identifier].Sublist order) (language : Language) (token : Text) :
    order.filter (fits language token) = checks.filter (fits language token) := by
  have distinct : checks.Nodup := by decide
  by_cases both : fits language token keyword = true ∧ fits language token identifier = true
  next =>
    obtain ⟨reserved, named⟩ := both
    rw [filter_fits_of_both permuted.subset (permuted.nodup_iff.mpr distinct) keywordFirst reserved
        named,
      filter_fits_of_both (List.Subset.refl checks) distinct (by decide) reserved named]
  next =>
    have alone : ∀ first ∈ checks.filter (fits language token),
        ∀ second ∈ checks.filter (fits language token), first = second := by
      intro first inside second insideToo
      obtain ⟨listed, fit⟩ := List.mem_filter.mp inside
      obtain ⟨listedToo, fitToo⟩ := List.mem_filter.mp insideToo
      exact (eq_of_fits listed listedToo fit fitToo).resolve_right both
    have fitting := permuted.filter (fits language token)
    have apart := distinct.filter (fits language token)
    -- At most one check succeeds, and lists of at most one element have no order.
    generalize checks.filter (fits language token) = found at alone fitting apart ⊢
    match found with
    | [] => exact List.perm_nil.mp fitting
    | [shape] => exact List.perm_singleton.mp fitting
    | first :: second :: later =>
      obtain rfl : first = second := alone first (by simp) second (by simp)
      simp at apart

theorem categorizeBy_eq (permuted : order.Perm checks)
    (keywordFirst : [keyword, identifier].Sublist order) (language : Language) (token : Text) :
    categorizeBy order language token = categorize language token := by
  rw [← categorizeBy_checks, categorizeBy, categorizeBy, ← List.head?_filter, ← List.head?_filter,
    filter_fits_eq permuted keywordFirst]

theorem keywordFirst_of_categorizeBy (named : identifier ∈ order)
    (spelled : fits language token identifier = true)
    (chosen : categorizeBy order language token = keyword) :
    [keyword, identifier].Sublist order := by
  have found : order.find? (fits language token) = some keyword := by
    unfold categorizeBy at chosen
    cases first : order.find? (fits language token) with
    | none => simp [first] at chosen
    | some category => simpa [first] using chosen
  obtain ⟨_, earlier, later, rfl, none⟩ := List.find?_eq_some_iff_append.mp found
  have behind : identifier ∈ later := by
    rcases List.mem_append.mp named with before | after
    next =>
      have fails := none identifier before
      simp [spelled] at fails
    next => simpa using after
  have pair : [keyword, identifier].Sublist (keyword :: later) :=
    (List.singleton_sublist.mpr behind).cons_cons keyword
  exact pair.trans (List.sublist_append_right earlier _)

end

/-- Of the tests on the spelling of a token at most one succeeds, and on a reserved word only the
one for identifiers. So the checks can be made in any order that has the one for keywords before
the one for identifiers, and in no other order. -/
theorem categorize_anyOrder :
    (∀ language token, ∀ first ∈ shapes, ∀ second ∈ shapes,
      fits language token first = true → fits language token second = true → first = second) ∧
    (∀ (language : Language) token, language.Reserves (trim token) →
      ∀ shape ∈ shapes, fits language token shape = true → shape = identifier) ∧
    ∀ order : List TokenCategory, order.Perm checks →
      ((∀ language token, categorizeBy order language token = categorize language token) ↔
        [keyword, identifier].Sublist order) := by
  refine ⟨?_, ?_, ?_⟩
  next =>
    intro language token first tested second testedToo
    exact eq_of_fits_of_shapes tested testedToo
  next =>
    intro language token reserved shape
    exact eq_identifier_of_reserved (isReserved_iff.mpr reserved)
  next =>
    intro order permuted
    constructor
    next =>
      intro agrees
      have named : identifier ∈ order := permuted.mem_iff.mpr (by decide)
      have chosen : categorize .cpp "if".toList = keyword := by decide
      rw [← agrees] at chosen
      exact keywordFirst_of_categorizeBy named (by decide) chosen
    next => exact categorizeBy_eq permuted

def shapeFirstOrder : List TokenCategory :=
  [delimiter, string, keyword, number, identifier, operator]

-- This token passes two of the checks: the line feed is trimmed for one and passed over by the other.
theorem categorize_anyOrder_shapeFirst :
    shapeFirstOrder.Perm checks ∧ [keyword, identifier].Sublist shapeFirstOrder ∧
      categorizeBy shapeFirstOrder .python "not\n".toList = categorize .python "not\n".toList := by
  have permuted : shapeFirstOrder.Perm checks := by decide
  have keywordFirst : [keyword, identifier].Sublist shapeFirstOrder := by decide
  have agrees := (categorize_anyOrder.2.2 shapeFirstOrder permuted).mpr keywordFirst
  exact ⟨permuted, keywordFirst, agrees .python "not\n".toList⟩

end SnippetGauge
