import SnippetGauge.Proofs.DeclaredCalls
import SnippetGauge.Proofs.EstimatePrecedence

set_option autoImplicit false

namespace SnippetGauge

open Text

namespace Text

variable {word after text : Text}

theorem IsWord.exists_cons (isWord : IsWord word) :
    ∃ c rest, word = c :: rest ∧ isWordChar c = true ∧ ∀ d ∈ rest, isWordChar d = true := by
  obtain ⟨c, rest, rfl⟩ := List.exists_cons_of_ne_nil isWord.filled
  obtain ⟨first, later⟩ := List.forall_mem_cons.mp isWord.whole
  exact ⟨c, rest, rfl, first, later⟩

theorem sitesFrom_append_word (isWord : IsWord word) (apart : StartsNoWord after) :
    sitesFrom false (word ++ after) = ⟨word, after⟩ :: sitesFrom false after := by
  have beyond : sitesFrom true after = sitesFrom false after := by
    cases after with
    | nil => rfl
    | cons c rest => simp [sitesFrom, apart c rfl]
  have inner (rest : Text) (whole : ∀ d ∈ rest, isWordChar d = true) :
      sitesFrom true (rest ++ after) = sitesFrom false after := by
    induction rest with
    | nil => exact beyond
    | cons d rest ih =>
      obtain ⟨first, later⟩ := List.forall_mem_cons.mp whole
      simpa [sitesFrom, first] using ih later
  have head := leadingWord_append isWord apart
  have tail := dropWhile_append_word isWord apart
  obtain ⟨c, rest, rfl, first, later⟩ := isWord.exists_cons
  rw [List.cons_append] at head tail ⊢
  rw [leadingWord, List.takeWhile_cons_of_pos first] at head
  rw [List.dropWhile_cons_of_pos first] at tail
  rw [sitesFrom, if_pos first, if_neg Bool.false_ne_true, leadingWord, head, tail, inner rest later]

theorem EndsNoWord.append {first second : Text} (ends : EndsNoWord first)
    (endsLater : EndsNoWord second) : EndsNoWord (first ++ second) := by
  intro c last
  rw [Option.mem_def, List.getLast?_append, Option.or_eq_some_iff] at last
  rcases last with last | ⟨_, last⟩
  next => exact endsLater c last
  next => exact ends c last

theorem endsNoWord_append_of_ne_nil {second : Text} (filled : second ≠ [])
    (ends : EndsNoWord second) (first : Text) : EndsNoWord (first ++ second) := by
  intro c last
  rw [List.getLast?_append_of_ne_nil first filled] at last
  exact ends c last

theorem startsNoWord_parenthesis (rest : Text) : StartsNoWord ('(' :: rest) := by
  rintro c ⟨⟩
  rfl

end Text

/-- A function whose body calls it, and its declaration as each language writes it. -/
structure SelfCaller where
  typeStart : Char
  typeRest : Text
  name : Text
  parameters : Text
  body : Text
  starts : TypedHead.isTypeStart typeStart = true
  goesOn : ∀ c ∈ typeRest, isWordChar c = true
  isWord : IsWord name
  isFunction : name ∉ nonFunctionWords.map String.toList
  bounded : ∀ c ∈ parameters, c ≠ ';' ∧ c ≠ '\x7b' ∧ c ≠ ')'
  calls : ∃ before, CallsAt name body before

namespace SelfCaller

variable (caller : SelfCaller)

def opening : Language → Text
  | .cpp | .java => caller.typeStart :: caller.typeRest
  | .python => "def".toList
  | .unidentified => "function".toList

def closing : Language → Text
  | .cpp | .java | .unidentified => " \x7b".toList
  | .python => ":".toList

def text (language : Language) : Text :=
  caller.opening language ++ ' ' :: (caller.name ++ '(' :: (caller.parameters ++
    ')' :: (closing language ++ caller.body)))

theorem closing_ne_nil (language : Language) : closing language ≠ [] := by
  cases language <;> simp [closing]

theorem endsNoWord_closing (language : Language) : EndsNoWord (closing language) := by
  cases language <;> rintro c ⟨⟩ <;> rfl

theorem calledAgain_text (language : Language) :
    CalledAgain caller.name (caller.text language) := by
  obtain ⟨before, ends, gap, after, blank, split⟩ := caller.calls
  let first := caller.opening language ++ [' ']
  let head := first ++ (caller.name ++ '(' :: (caller.parameters ++ [')']))
  have firstEnds : EndsNoWord first := by
    apply endsNoWord_append_of_ne_nil (List.cons_ne_nil ' ' [])
    rintro c ⟨⟩
    rfl
  have headEnds : EndsNoWord (head ++ closing language) :=
    endsNoWord_append_of_ne_nil (closing_ne_nil language) (endsNoWord_closing language) head
  refine ⟨first, head ++ closing language ++ before, ?_, ?_, ?_⟩
  next =>
    intro same
    have length := congrArg List.length same
    simp only [head, List.length_append, List.length_cons] at length
    omega
  next =>
    refine ⟨firstEnds, [], caller.parameters ++ ')' :: (closing language ++ caller.body), rfl, ?_⟩
    simp [text, first]
  next =>
    refine ⟨headEnds.append ends, gap, after, blank, ?_⟩
    simp [text, first, head, split]

section Typed

variable (rest : Text)

theorem dropWhile_isSeparator_name :
    (caller.name ++ rest).dropWhile TypedHead.isSeparator = caller.name ++ rest := by
  obtain ⟨c, more, spelled, letter, _⟩ := caller.isWord.exists_cons
  rw [spelled]
  apply List.dropWhile_cons_of_neg
  intro separates
  simp [TypedHead.isWordChar_of_isSeparator separates] at letter

theorem afterTypePart?_type :
    TypedHead.afterTypePart?
        (caller.typeStart :: (caller.typeRest ++ ' ' :: (caller.name ++ rest))) =
      some (caller.name ++ rest) := by
  have typed (c : Char) (inside : c ∈ caller.typeRest) : TypedHead.isTypeChar c = true := by
    simp [TypedHead.isTypeChar, caller.goesOn c inside]
  have stops : TypedHead.isTypeChar ' ' = false := rfl
  have separates : TypedHead.isSeparator ' ' = true := rfl
  have word : TypedHead.afterTypeWord?
      (caller.typeStart :: (caller.typeRest ++ ' ' :: (caller.name ++ rest))) =
        some (' ' :: (caller.name ++ rest)) := by
    rw [TypedHead.afterTypeWord?, if_pos caller.starts, List.dropWhile_append_of_pos typed,
      List.dropWhile_cons_of_neg (by simp [stops])]
  rw [TypedHead.afterTypePart?, word, Option.bind_some, TypedHead.afterSeparators?,
    if_pos separates, caller.dropWhile_isSeparator_name]

theorem nameAt?_name :
    TypedHead.nameAt? (caller.name ++ '(' :: rest) = some (caller.name, rest) := by
  have apart := startsNoWord_parenthesis rest
  refine TypedHead.nameAt?_eq_some_iff.mpr
    ⟨leadingWord_append caller.isWord apart, caller.isWord.filled, ?_⟩
  rw [dropWhile_append_word caller.isWord apart]
  rfl

theorem afterParameters?_parameters :
    TypedHead.afterParameters? (caller.parameters ++ ')' :: rest) = some rest := by
  have goesOn (c : Char) (inside : c ∈ caller.parameters) :
      TypedHead.isParameterChar c = true := by
    simpa [TypedHead.isParameterChar] using caller.bounded c inside
  rw [TypedHead.afterParameters?_eq_some_iff, List.dropWhile_append_of_pos goesOn]
  rfl

theorem dropWhile_isGap_type :
    (caller.typeStart :: rest).dropWhile isGap = caller.typeStart :: rest := by
  apply List.dropWhile_cons_of_neg
  intro gap
  have blank : TypedHead.isTypeStart ' ' = false ∧ TypedHead.isTypeStart '\t' = false := ⟨rfl, rfl⟩
  have starts := caller.starts
  simp only [isGap, Bool.or_eq_true, beq_iff_eq] at gap
  rcases gap with same | same <;> simp [same, blank] at starts

theorem read?_typed {text : Text} (spelled : text = caller.typeStart :: (caller.typeRest ++
      ' ' :: (caller.name ++ '(' :: (caller.parameters ++ ')' :: ' ' :: '\x7b' :: rest)))) :
    TypedHead.read? text = some (caller.name, rest) := by
  let below := caller.parameters ++ ')' :: ' ' :: '\x7b' :: rest
  have part : TypedHead.afterTypePart? text = some (caller.name ++ '(' :: below) :=
    spelled ▸ caller.afterTypePart?_type ('(' :: below)
  have named : TypedHead.nameAt? (caller.name ++ '(' :: below) = some (caller.name, below) :=
    caller.nameAt?_name below
  have opens : TypedHead.headEnd? below = some rest := by
    rw [TypedHead.headEnd?, caller.afterParameters?_parameters]
    rfl
  have reads : TypedHead.ReadsOver text below :=
    (TypedHead.ReadsOver.afterTypePart? part).trans (TypedHead.ReadsOver.nameAt? named)
  have head : TypedHead.headName? text = some caller.name := by
    have flush : text.dropWhile isGap = text := spelled ▸ caller.dropWhile_isGap_type _
    rw [TypedHead.headName?, flush, TypedHead.namePlaces_of_some part, List.findSome?_cons, named]
    rfl
  rw [TypedHead.read?_eq, head, Option.bind_some, reads.headEnd?_eq, opens]
  rfl

end Typed

theorem exists_names_typed {language : Language} (typed : language = .cpp ∨ language = .java) :
    ∃ later, declaredNames (caller.text language) language = caller.name :: later := by
  have names : declaredNames (caller.text language) language =
      TypedHead.names (caller.text language) := by
    rcases typed with rfl | rfl <;> rfl
  have spelled : caller.text language = caller.typeStart :: (caller.typeRest ++
      ' ' :: (caller.name ++ '(' :: (caller.parameters ++ ')' :: ' ' :: '\x7b' :: caller.body))) := by
    rcases typed with rfl | rfl <;> rfl
  have read := caller.read?_typed caller.body spelled
  rw [names, TypedHead.names, lineStarts, TypedHead.namesFrom_some (Nat.le_refl _) read]
  exact ⟨_, rfl⟩

theorem exists_namesAfter {head : String} {heads : List String} (isWord : IsWord head.toList)
    (listed : head ∈ heads) (needsCall : Bool) (rest : Text) :
    ∃ later, namesAfter heads needsCall
      (wordSites (head.toList ++ ' ' :: (caller.name ++ '(' :: rest))) = caller.name :: later := by
  have apart : StartsNoWord (' ' :: (caller.name ++ '(' :: rest)) := by
    rintro c ⟨⟩
    rfl
  have next : sitesFrom false (' ' :: (caller.name ++ '(' :: rest)) =
      ⟨caller.name, '(' :: rest⟩ :: sitesFrom false ('(' :: rest) :=
    sitesFrom_append_word caller.isWord (startsNoWord_parenthesis rest)
  have any : heads.any (·.toList == head.toList) = true :=
    List.any_eq_true.mpr ⟨head, listed, beq_self_eq_true _⟩
  have blank : WordSite.blankToNext ⟨head.toList, ' ' :: (caller.name ++ '(' :: rest)⟩ = true := by
    obtain ⟨c, more, spelled, letter, _⟩ := caller.isWord.exists_cons
    have outside : isWordChar ' ' = false := rfl
    have white : isBlank ' ' = true := rfl
    simp [WordSite.blankToNext, spelled, letter, outside, isBlankText, white]
  have call : WordSite.isCall ⟨caller.name, '(' :: rest⟩ = true := rfl
  rw [wordSites, sitesFrom_append_word isWord apart, next]
  simp [namesAfter, any, blank, call]

theorem exists_names (language : Language) :
    ∃ later, declaredNames (caller.text language) language = caller.name :: later := by
  cases language with
  | cpp => exact caller.exists_names_typed (.inl rfl)
  | java => exact caller.exists_names_typed (.inr rfl)
  | python =>
    exact caller.exists_namesAfter ⟨by simp, List.all_eq_true.mp rfl⟩ List.mem_cons_self true _
  | unidentified =>
    exact caller.exists_namesAfter ⟨by simp, List.all_eq_true.mp rfl⟩ List.mem_cons_self false _

theorem recursiveFunction?_text (language : Language) :
    recursiveFunction? (caller.text language) language = some caller.name := by
  obtain ⟨later, names⟩ := caller.exists_names language
  have again := (one_lt_callCount_iff caller.isWord).mpr (caller.calledAgain_text language)
  have function : isFunctionName caller.name = true := by
    simpa [isFunctionName] using caller.isFunction
  rw [recursiveFunction?_eq, names]
  apply List.find?_cons_of_pos
  simp [isRecursive, function, again]

end SelfCaller

theorem recursiveFunction?_selfCaller (caller : SelfCaller) (language : Language) :
    let code := caller.text language
    recursiveFunction? code language = some caller.name ∧
      (stripAllComments code = code →
        (∀ signature ∈ Signature.table, signature.pattern.occursIn code = false) →
        (estimate code language).complexity = "O(2^n)" ∧
          (estimate code language).explanation =
            "Recursive function calls detected in '" ++ String.ofList caller.name ++
              "' - Potentially exponential complexity" ++
              noteText (callsSort code) (usesHashContainer code)) := by
  intro code
  have recursive := caller.recursiveFunction?_text language
  refine ⟨recursive, fun plain unnamed => ?_⟩
  have nothing : NamesNothing code language := by
    intro signature listed counts
    exact Bool.false_ne_true ((unnamed signature listed).symm.trans counts.1)
  have base : baseReport code language = .ofRecursion caller.name := by
    rw [baseReport_of_namesNothing nothing, recursive]
    rfl
  have whole : estimate code language =
      (ComplexityReport.ofRecursion caller.name).addNotes (notes code) := by
    simp only [estimate, plain, base]
  rw [whole, ComplexityReport.complexity_addNotes, ComplexityReport.explanation_addNotes]
  exact ⟨rfl, rfl⟩

-- The parameters hold another call, over a line end, and the name is called with a gap.
def digitSum : SelfCaller where
  typeStart := 'i'
  typeRest := "nt".toList
  name := "sumá".toList
  parameters := "int *n,\n  int (row, sumá(0".toList
  body := "\n  return n % 10 + sumá (n / 10);\n\x7d".toList
  starts := by decide
  goesOn := List.all_eq_true.mp rfl
  isWord := ⟨by simp, List.all_eq_true.mp rfl⟩
  isFunction := by decide
  bounded := by simp
  calls := by
    refine ⟨"\n  return n % 10 + ".toList, ?_, " ".toList, "n / 10);\n\x7d".toList, ?_, ?_⟩
    next =>
      rintro c ⟨⟩
      rfl
    next => decide
    next => rfl

theorem recursiveFunction?_digitSum :
    let code := digitSum.text .java
    stripAllComments code = code ∧
      (∀ signature ∈ Signature.table, signature.pattern.occursIn code = false) ∧
      recursiveFunction? code .java = some "sumá".toList ∧
      (estimate code .java).complexity = "O(2^n)" := by
  intro code
  have plain : stripAllComments code = code := by decide
  have unnamed : ∀ signature ∈ Signature.table, signature.pattern.occursIn code = false := by
    decide
  obtain ⟨found, label⟩ := recursiveFunction?_selfCaller digitSum .java
  exact ⟨plain, unnamed, found, (label plain unnamed).1⟩

end SnippetGauge
