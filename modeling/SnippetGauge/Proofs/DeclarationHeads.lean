import Mathlib.Data.List.TakeWhile
import SnippetGauge.Complexity.Declaration

set_option autoImplicit false

namespace SnippetGauge.Text

variable {accepts goesOn : Char → Bool}

theorem drop_length_takeWhile (accepts : Char → Bool) (text : Text) :
    text.drop (text.takeWhile accepts).length = text.dropWhile accepts := by
  have whole := List.takeWhile_append_dropWhile (p := accepts) (l := text)
  rw [← List.append_cancel_left_eq (text.takeWhile accepts), whole]
  exact List.prefix_iff_eq_append.mp (List.takeWhile_prefix accepts)

theorem dropWhile_dropWhile (more : ∀ c, accepts c = true → goesOn c = true) (text : Text) :
    (text.dropWhile accepts).dropWhile goesOn = text.dropWhile goesOn := by
  induction text with
  | nil => rfl
  | cons c rest ih =>
    by_cases goes : accepts c = true
    · rw [List.dropWhile_cons_of_pos goes, List.dropWhile_cons_of_pos (more c goes), ih]
    · rw [List.dropWhile_cons_of_neg goes]

end SnippetGauge.Text

namespace SnippetGauge.TypedHead

open Text

variable {text rest place name after : Text}

theorem afterParameters?_eq_some_iff :
    afterParameters? text = some after ↔ text.dropWhile isParameterChar = ')' :: after := by
  unfold afterParameters?
  split
  next later same => simp [same]
  next other => simpa using other after

def StopsAtMarks (accepts : Char → Bool) : Prop :=
  accepts ';' = false ∧ accepts '\x7b' = false ∧ accepts ')' = false

theorem isParameterChar_of {accepts : Char → Bool} (stops : StopsAtMarks accepts) {c : Char}
    (goes : accepts c = true) : isParameterChar c = true := by
  obtain ⟨statement, brace, closing⟩ := stops
  unfold isParameterChar
  rw [Bool.not_eq_true', ← Bool.not_eq_true, List.contains_iff_mem]
  intro inside
  simp only [List.mem_cons, List.not_mem_nil, or_false] at inside
  rcases inside with rfl | rfl | rfl <;> simp_all

theorem stops_isTypeStart : StopsAtMarks isTypeStart := ⟨rfl, rfl, rfl⟩

theorem stops_isTypeChar : StopsAtMarks isTypeChar := ⟨rfl, rfl, rfl⟩

theorem stops_isAngleChar : StopsAtMarks isAngleChar := ⟨rfl, rfl, rfl⟩

theorem stops_isSeparator : StopsAtMarks isSeparator := ⟨rfl, rfl, rfl⟩

theorem stops_isWordChar : StopsAtMarks isWordChar := ⟨rfl, rfl, rfl⟩

theorem stops_isGap : StopsAtMarks isGap := ⟨rfl, rfl, rfl⟩

def ReadsOver (text rest : Text) : Prop :=
  ∃ read, text = read ++ rest ∧ read.all isParameterChar = true

namespace ReadsOver

theorem trans {middle : Text} (first : ReadsOver text middle) (second : ReadsOver middle rest) :
    ReadsOver text rest := by
  obtain ⟨read, rfl, goes⟩ := first
  obtain ⟨more, rfl, further⟩ := second
  exact ⟨read ++ more, by simp, by simp [List.all_append, goes, further]⟩

theorem cons {c : Char} (goes : isParameterChar c = true) (text : Text) :
    ReadsOver (c :: text) text :=
  ⟨[c], rfl, by simp [goes]⟩

theorem dropWhile {accepts : Char → Bool} (stops : StopsAtMarks accepts) (text : Text) :
    ReadsOver text (text.dropWhile accepts) := by
  refine ⟨text.takeWhile accepts, List.takeWhile_append_dropWhile.symm, ?_⟩
  rw [List.all_eq_true]
  intro c inside
  exact isParameterChar_of stops (List.all_eq_true.mp List.all_takeWhile c inside)

theorem suffix (reads : ReadsOver text rest) : rest <:+ text := by
  obtain ⟨read, rfl, _⟩ := reads
  exact List.suffix_append read rest

theorem dropWhile_eq (reads : ReadsOver text rest) :
    text.dropWhile isParameterChar = rest.dropWhile isParameterChar := by
  obtain ⟨read, rfl, goes⟩ := reads
  exact List.dropWhile_append_of_pos fun c inside => List.all_eq_true.mp goes c inside

theorem afterParameters?_eq (reads : ReadsOver text rest) :
    afterParameters? text = afterParameters? rest := by
  apply Option.ext
  intro after
  rw [afterParameters?_eq_some_iff, afterParameters?_eq_some_iff, reads.dropWhile_eq]

theorem afterTypeWord? (found : afterTypeWord? text = some rest) : ReadsOver text rest := by
  cases text with
  | nil => simp [TypedHead.afterTypeWord?] at found
  | cons c more =>
    simp only [TypedHead.afterTypeWord?] at found
    split at found
    next starts =>
      rw [← Option.some.inj found]
      exact (cons (isParameterChar_of stops_isTypeStart starts) more).trans
        (dropWhile stops_isTypeChar more)
    next =>
      split at found
      next angle =>
        have opens : isParameterChar c = true := by
          rw [beq_iff_eq.mp angle]
          rfl
        split at found
        next closed same =>
          rw [← Option.some.inj found]
          have inner := dropWhile stops_isAngleChar more
          rw [same] at inner
          exact (cons opens more).trans (inner.trans (cons rfl closed))
        next => simp at found
      next => simp at found

theorem afterTypePart? (found : afterTypePart? text = some rest) : ReadsOver text rest := by
  rw [TypedHead.afterTypePart?, Option.bind_eq_some_iff] at found
  obtain ⟨middle, word, separators⟩ := found
  refine (afterTypeWord? word).trans ?_
  cases middle with
  | nil => simp [afterSeparators?] at separators
  | cons c more =>
    simp only [afterSeparators?] at separators
    split at separators
    next goes =>
      rw [← Option.some.inj separators]
      exact (cons (isParameterChar_of stops_isSeparator goes) more).trans
        (dropWhile stops_isSeparator more)
    next => simp at separators

theorem of_mem_namePlaces (inside : place ∈ namePlaces text) : ReadsOver text place := by
  fun_induction namePlaces text with
  | case1 => simp at inside
  | case2 text rest found ih =>
    rw [List.mem_cons] at inside
    rcases inside with rfl | inside
    · exact afterTypePart? found
    · exact (afterTypePart? found).trans (ih inside)

end ReadsOver

theorem nameAt?_eq_some_iff : nameAt? text = some (name, after) ↔
    leadingWord text = name ∧ name ≠ [] ∧
      (text.dropWhile isWordChar).dropWhile isGap = '(' :: after := by
  have rest : text.drop (leadingWord text).length = text.dropWhile isWordChar :=
    drop_length_takeWhile isWordChar text
  simp only [nameAt?, rest]
  by_cases filled : leadingWord text = []
  · simp +contextual [filled, eq_comm]
  · rw [if_neg (by simpa using filled)]
    split
    next later same =>
      simp only [same, Option.some.injEq, Prod.mk.injEq, List.cons.injEq, true_and]
      constructor
      · rintro ⟨rfl, rfl⟩
        exact ⟨rfl, filled, rfl⟩
      · rintro ⟨rfl, _, rfl⟩
        exact ⟨rfl, rfl⟩
    next other =>
      simp only [reduceCtorEq, false_iff, not_and]
      exact fun _ _ => other after

theorem nameAt?_parenthesis (after : Text) : nameAt? ('(' :: after) = none := by
  simp [nameAt?, leadingWord, show isWordChar '(' = false from rfl]

theorem namePlaces_of_none (missing : afterTypePart? text = none) : namePlaces text = [] := by
  rw [namePlaces]
  split
  next => rfl
  next found => simp [missing] at found

theorem namePlaces_of_some (found : afterTypePart? text = some rest) :
    namePlaces text = rest :: namePlaces rest := by
  rw [namePlaces]
  split
  next missing => simp [missing] at found
  next same => rw [Option.some.inj (same.symm.trans found)]

theorem namePlaces_parenthesis (after : Text) : namePlaces ('(' :: after) = [] := by
  apply namePlaces_of_none
  simp [afterTypePart?, afterTypeWord?, show isTypeStart '(' = false from rfl]

theorem afterTypeWord?_of_name (filled : leadingWord text ≠ [])
    (found : afterTypeWord? text = some rest) :
    rest = (text.dropWhile isWordChar).dropWhile isTypeChar := by
  have more (c : Char) (word : isWordChar c = true) : isTypeChar c = true := by
    simp [isTypeChar, word]
  rw [dropWhile_dropWhile more]
  cases text with
  | nil => simp [afterTypeWord?] at found
  | cons c later =>
    have first : isWordChar c = true := by
      cases word : isWordChar c with
      | true => rfl
      | false => simp [leadingWord, word] at filled
    have angle : c ≠ '<' := by
      rintro rfl
      exact absurd first (by decide)
    rw [List.dropWhile_cons_of_pos (more c first)]
    simp only [afterTypeWord?] at found
    split at found
    · exact (Option.some.inj found).symm
    · simp [angle] at found

theorem dropWhile_isTypeChar_of_gap (opens : text.dropWhile isGap = '(' :: after) :
    text.dropWhile isTypeChar = text := by
  cases text with
  | nil => rfl
  | cons c more =>
    apply List.dropWhile_cons_of_neg
    by_cases gap : isGap c = true
    · simp only [isGap, Bool.or_eq_true, beq_iff_eq] at gap
      rcases gap with rfl | rfl <;> decide
    · rw [List.dropWhile_cons_of_neg gap, List.cons.injEq] at opens
      rw [opens.1]
      decide

theorem afterSeparators?_of_gap (opens : text.dropWhile isGap = '(' :: after)
    (found : afterSeparators? text = some rest) : rest = '(' :: after := by
  have more (c : Char) (gap : isGap c = true) : isSeparator c = true := by
    simp [isSeparator, gap]
  have all : text.dropWhile isSeparator = '(' :: after := by
    rw [← dropWhile_dropWhile more, opens]
    rfl
  cases text with
  | nil => simp [afterSeparators?] at found
  | cons c later =>
    simp only [afterSeparators?] at found
    split at found
    next goes =>
      rw [List.dropWhile_cons_of_pos goes] at all
      rw [← all]
      exact (Option.some.inj found).symm
    next => simp at found

theorem afterTypePart?_of_nameAt? (named : nameAt? text = some (name, after))
    (found : afterTypePart? text = some rest) : rest = '(' :: after := by
  obtain ⟨word, filled, opens⟩ := nameAt?_eq_some_iff.mp named
  rw [afterTypePart?, Option.bind_eq_some_iff] at found
  obtain ⟨middle, read, separators⟩ := found
  rw [afterTypeWord?_of_name (word ▸ filled) read, dropWhile_isTypeChar_of_gap opens]
    at separators
  exact afterSeparators?_of_gap opens separators

theorem nameAt?_of_later (named : nameAt? text = some (name, after))
    (later : place ∈ namePlaces text) : nameAt? place = none := by
  cases found : afterTypePart? text with
  | none => simp [namePlaces_of_none found] at later
  | some rest =>
    rw [namePlaces_of_some found, afterTypePart?_of_nameAt? named found, namePlaces_parenthesis,
      List.mem_singleton] at later
    rw [later, nameAt?_parenthesis]

theorem findSome?_namePlaces {Result : Type} (found? : Text × Text → Option Result) (text : Text) :
    (namePlaces text).reverse.findSome? (fun place => (nameAt? place).bind found?) =
      ((namePlaces text).findSome? nameAt?).bind found? := by
  fun_induction namePlaces text with
  | case1 => rfl
  | case2 text rest found ih =>
    rw [List.reverse_cons, List.findSome?_append, List.findSome?_cons]
    cases named : nameAt? rest with
    | none => simp [ih, named]
    | some read =>
      have none : (namePlaces rest).reverse.findSome?
          (fun place => (nameAt? place).bind found?) = none := by
        rw [List.findSome?_eq_none_iff]
        intro place inside
        rw [nameAt?_of_later named (List.mem_reverse.mp inside)]
        rfl
      simp only [none, named, Option.none_or, List.findSome?_cons, Option.bind_some]
      cases found? read <;> rfl

def headName? (line : Text) : Option Text :=
  ((namePlaces (line.dropWhile isGap)).findSome? nameAt?).map (·.1)

def headEnd? (line : Text) : Option Text := (afterParameters? line).bind afterHeadEnd?

theorem ReadsOver.nameAt? (named : nameAt? text = some (name, after)) : ReadsOver text after := by
  obtain ⟨_, _, opens⟩ := nameAt?_eq_some_iff.mp named
  have word := ReadsOver.dropWhile stops_isWordChar text
  have gap := ReadsOver.dropWhile stops_isGap (text.dropWhile isWordChar)
  rw [opens] at gap
  exact word.trans (gap.trans (ReadsOver.cons rfl after))

theorem ReadsOver.headEnd?_eq (reads : ReadsOver text rest) : headEnd? text = headEnd? rest := by
  unfold headEnd?
  rw [reads.afterParameters?_eq]

theorem declaredAt?_eq (place : Text) :
    declaredAt? place =
      (TypedHead.nameAt? place).bind fun read => (headEnd? read.2).map (read.1, ·) := by
  unfold declaredAt?
  cases TypedHead.nameAt? place with
  | none => rfl
  | some read =>
    obtain ⟨name, after⟩ := read
    unfold headEnd?
    simp only [Option.map_eq_bind, Option.bind_assoc, Option.bind_some]
    rfl

theorem read?_eq (line : Text) :
    read? line = (headName? line).bind fun name => (headEnd? line).map (name, ·) := by
  unfold read? headName?
  rw [funext declaredAt?_eq, findSome?_namePlaces]
  cases found : (namePlaces (line.dropWhile isGap)).findSome? TypedHead.nameAt? with
  | none => rfl
  | some read =>
    obtain ⟨place, inside, named⟩ := List.exists_of_findSome?_eq_some found
    have gap := ReadsOver.dropWhile stops_isGap line
    have reads := gap.trans ((ReadsOver.of_mem_namePlaces inside).trans (ReadsOver.nameAt? named))
    simp [reads.headEnd?_eq]

theorem exists_afterConst (text : Text) :
    ∃ read, text = read ++ afterConst text ∧ '\n' ∉ read := by
  have gap (text : Text) : '\n' ∉ text.takeWhile isGap := by
    intro inside
    exact absurd (List.mem_takeWhile_imp inside) (by decide)
  have split := List.takeWhile_append_dropWhile (p := isGap) (l := text)
  simp only [afterConst]
  cases found : dropPrefix? "const".toList (text.dropWhile isGap) with
  | none => exact ⟨text.takeWhile isGap, split.symm, gap text⟩
  | some after =>
    refine ⟨text.takeWhile isGap ++ ("const".toList ++ after.takeWhile isGap), ?_, ?_⟩
    · rw [List.append_assoc, List.append_assoc, List.takeWhile_append_dropWhile,
        ← dropPrefix?_eq_some_iff.mp found, split]
    · rw [List.mem_append, List.mem_append, not_or, not_or]
      exact ⟨gap text, by decide, gap after⟩

theorem afterConst_suffix (text : Text) : afterConst text <:+ text := by
  obtain ⟨read, split, _⟩ := exists_afterConst text
  exact ⟨read, split.symm⟩

section Thrown

variable {c : Char}

theorem afterThrown?_of_nil (tail : text.dropWhile isThrownChar = []) :
    afterThrown? text = some [] := by
  simp only [afterThrown?, tail]

theorem afterThrown?_of_brace (tail : text.dropWhile isThrownChar = '\x7b' :: rest) :
    afterThrown? text = some rest := by
  simp only [afterThrown?, tail]

theorem afterThrown?_of_statement (tail : text.dropWhile isThrownChar = c :: rest)
    (other : c ≠ '\x7b') :
    afterThrown? text =
      if (text.takeWhile isThrownChar).contains '\n' then
        some ('\n' :: lastLine (text.takeWhile isThrownChar) ++ c :: rest)
      else none := by
  simp only [afterThrown?, tail]
  split
  next found => simp at found
  next found => exact absurd (List.cons.inj found).1 other
  next => rfl

end Thrown

theorem exists_lastLine (inside : '\n' ∈ text) :
    ∃ before, text = before ++ '\n' :: lastLine text := by
  have split := List.takeWhile_append_dropWhile (p := (· != '\n')) (l := text.reverse)
  have stops := List.head?_dropWhile_not (· != '\n') text.reverse
  cases rest : text.reverse.dropWhile (· != '\n') with
  | nil =>
    have all := List.all_takeWhile (p := (· != '\n')) (l := text.reverse)
    rw [rest, List.append_nil] at split
    rw [split] at all
    simpa using List.all_eq_true.mp all '\n' (by simpa using inside)
  | cons c more =>
    have ends : c = '\n' := by simpa [rest] using stops
    refine ⟨more.reverse, ?_⟩
    rw [rest, ends] at split
    rw [← List.reverse_inj, ← split]
    simp [lastLine]

theorem afterThrown?_suffix (found : afterThrown? text = some rest) : rest <:+ text := by
  have whole := List.takeWhile_append_dropWhile (p := isThrownChar) (l := text)
  cases tail : text.dropWhile isThrownChar with
  | nil =>
    rw [afterThrown?_of_nil tail] at found
    exact Option.some.inj found ▸ List.nil_suffix
  | cons c more =>
    rw [tail] at whole
    by_cases brace : c = '\x7b'
    · subst brace
      rw [afterThrown?_of_brace tail] at found
      rw [← Option.some.inj found, ← whole]
      exact (List.suffix_cons _ more).trans (List.suffix_append _ _)
    · rw [afterThrown?_of_statement tail brace] at found
      split at found
      next inside =>
        obtain ⟨before, split⟩ := exists_lastLine (List.contains_iff_mem.mp inside)
        refine ⟨before, ?_⟩
        rw [← Option.some.inj found, ← List.append_assoc, ← split, whole]
      next => simp at found

theorem afterOpening?_suffix (found : afterOpening? text = some rest) : rest <:+ text := by
  unfold afterOpening? at found
  split at found
  next => exact Option.some.inj found ▸ List.suffix_refl _
  next more => exact Option.some.inj found ▸ List.suffix_cons _ more
  next more => exact Option.some.inj found ▸ List.suffix_refl _
  next => simp at found

theorem afterHeadEnd?_suffix (found : afterHeadEnd? text = some rest) : rest <:+ text := by
  refine List.IsSuffix.trans ?_ (afterConst_suffix text)
  unfold afterHeadEnd? at found
  split at found
  next after word =>
    rw [dropPrefix?_eq_some_iff.mp word]
    exact (afterThrown?_suffix found).trans (List.suffix_append _ after)
  next => exact afterOpening?_suffix found

theorem afterParameters?_suffix (found : afterParameters? text = some rest) : rest <:+ text := by
  have closed := afterParameters?_eq_some_iff.mp found
  exact (List.suffix_cons _ rest).trans (closed ▸ List.dropWhile_suffix isParameterChar)

theorem headEnd?_suffix (found : headEnd? text = some rest) : rest <:+ text := by
  rw [headEnd?, Option.bind_eq_some_iff] at found
  obtain ⟨after, closed, ends⟩ := found
  exact (afterHeadEnd?_suffix ends).trans (afterParameters?_suffix closed)

end SnippetGauge.TypedHead
