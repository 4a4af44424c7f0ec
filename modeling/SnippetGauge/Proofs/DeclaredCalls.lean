import SnippetGauge.Proofs.CallPlaces
import SnippetGauge.Proofs.ReturnHeads

set_option autoImplicit false

namespace SnippetGauge

open Text

def calledWords (sites : List WordSite) : List Text := (sites.filter (·.isCall)).map (·.word)

theorem callCount_eq_count (name text : Text) :
    callCount name text = (calledWords (wordSites text)).count name := by
  rw [callCount, calledWords, List.count, List.countP_map, List.countP_filter]
  rfl

-- The sites that begin within the last `left` characters.
def sitesWithin (left : Nat) (sites : List WordSite) : List WordSite :=
  sites.filter (·.left ≤ left)

theorem cons_sublist_sitesWithin {sites : List WordSite} {site : WordSite} {left rest : Nat}
    (ordered : sites.Pairwise fun first second => second.left < first.left)
    (found : site ∈ sites) (near : site.left ≤ left) (past : rest < site.left) :
    (site :: sitesWithin rest sites).Sublist (sitesWithin left sites) := by
  obtain ⟨earlier, later, rfl⟩ := List.append_of_mem found
  rw [List.pairwise_append, List.pairwise_cons] at ordered
  have none : earlier.filter (·.left ≤ rest) = [] := by
    rw [List.filter_eq_nil_iff]
    intro other inside
    have before := ordered.2.2 other inside site List.mem_cons_self
    simp only [decide_eq_true_eq]
    omega
  have skipped : sitesWithin rest (earlier ++ site :: later) = sitesWithin rest later := by
    have beyond : ¬ site.left ≤ rest := by omega
    simp [sitesWithin, none, beyond]
  have kept : sitesWithin left (earlier ++ site :: later) =
      sitesWithin left earlier ++ site :: sitesWithin left later := by
    simp [sitesWithin, near]
  have more : (sitesWithin rest later).Sublist (sitesWithin left later) := by
    apply List.monotone_filter_right
    intro other inside
    simp only [decide_eq_true_eq] at inside ⊢
    omega
  rw [skipped, kept]
  exact (more.cons_cons site).trans (List.sublist_append_right _ _)

theorem calledWords_sublist {sites others : List WordSite} (part : sites.Sublist others) :
    (calledWords sites).Sublist (calledWords others) := (part.filter _).map _

theorem calledWords_cons {site : WordSite} (call : site.isCall = true) (later : List WordSite) :
    calledWords (site :: later) = site.word :: calledWords later := by
  simp [calledWords, call]

theorem namesAfter_sublist (heads : List String) (sites : List WordSite) :
    (namesAfter heads true sites).Sublist (calledWords sites) := by
  fun_induction namesAfter heads true sites with
  | case1 => exact .slnil
  | case2 site => exact List.nil_sublist _
  | case3 head name later taken ih =>
    simp only [Bool.not_true, Bool.false_or, Bool.and_eq_true] at taken
    have named := ih.cons_cons name.word
    rw [← calledWords_cons taken.2] at named
    exact named.trans (calledWords_sublist (List.sublist_cons_self head (name :: later)))
  | case4 head name later other ih =>
    exact ih.trans (calledWords_sublist (List.sublist_cons_self head (name :: later)))

namespace TypedHead

variable {code text rest place line name after : Text} {c : Char}

theorem isWordChar_of_isSeparator (separates : isSeparator c = true) : isWordChar c = false := by
  simp only [isSeparator, isGap, Bool.or_eq_true, beq_iff_eq] at separates
  rcases separates with ((rfl | rfl) | rfl) | rfl <;> rfl

theorem isBlank_of_isGap (gap : isGap c = true) : isBlank c = true := by
  simp only [isGap, Bool.or_eq_true, beq_iff_eq] at gap
  rcases gap with rfl | rfl <;> rfl

def FollowsSeparator (text place : Text) : Prop :=
  ∃ read c, isSeparator c = true ∧ text = read ++ c :: place

theorem followsSeparator_dropWhile (separates : isSeparator c = true) (text : Text) :
    FollowsSeparator (c :: text) (text.dropWhile isSeparator) := by
  induction text generalizing c with
  | nil => exact ⟨[], c, separates, rfl⟩
  | cons d text ih =>
    cases more : isSeparator d with
    | false =>
      rw [List.dropWhile_cons_of_neg (by simp [more])]
      exact ⟨[], c, separates, rfl⟩
    | true =>
      obtain ⟨read, last, ends, split⟩ := ih more
      rw [List.dropWhile_cons_of_pos more, split]
      exact ⟨c :: read, last, ends, rfl⟩

theorem FollowsSeparator.of_suffix (follows : FollowsSeparator rest place) (part : rest <:+ text) :
    FollowsSeparator text place := by
  obtain ⟨read, c, separates, rfl⟩ := follows
  obtain ⟨more, rfl⟩ := part
  exact ⟨more ++ read, c, separates, by simp⟩

theorem followsSeparator_of_afterTypePart? (found : afterTypePart? text = some rest) :
    FollowsSeparator text rest := by
  rw [afterTypePart?, Option.bind_eq_some_iff] at found
  obtain ⟨middle, word, separators⟩ := found
  apply FollowsSeparator.of_suffix _ (ReadsOver.afterTypeWord? word).suffix
  cases middle with
  | nil => simp [afterSeparators?] at separators
  | cons c more =>
    simp only [afterSeparators?] at separators
    split at separators
    next separates =>
      rw [← Option.some.inj separators]
      exact followsSeparator_dropWhile separates more
    next => simp at separators

theorem followsSeparator_of_mem_namePlaces (inside : place ∈ namePlaces text) :
    FollowsSeparator text place := by
  fun_induction namePlaces text with
  | case1 => simp at inside
  | case2 text rest found ih =>
    rcases List.mem_cons.mp inside with rfl | inside
    next => exact followsSeparator_of_afterTypePart? found
    next => exact (ih inside).of_suffix (ReadsOver.afterTypePart? found).suffix

theorem exists_call_of_read? (found : read? line = some (name, after)) :
    ∃ gap tail, isBlankText gap = true ∧ IsWord name ∧ after <:+ tail ∧
      FollowsSeparator line (name ++ (gap ++ '(' :: tail)) := by
  rw [read?_eq, Option.bind_eq_some_iff] at found
  obtain ⟨given, named, ends⟩ := found
  obtain ⟨final, reached, same⟩ := Option.map_eq_some_iff.mp ends
  obtain ⟨rfl, rfl⟩ := Prod.mk.inj same
  obtain ⟨⟨_, tail⟩, first, rfl⟩ := Option.map_eq_some_iff.mp named
  obtain ⟨place, inside, at_⟩ := List.exists_of_findSome?_eq_some first
  obtain ⟨word, filled, opens⟩ := nameAt?_eq_some_iff.mp at_
  have gapRead := ReadsOver.dropWhile stops_isGap line
  have reads := gapRead.trans ((ReadsOver.of_mem_namePlaces inside).trans (ReadsOver.nameAt? at_))
  rw [reads.headEnd?_eq] at reached
  let gap := (place.dropWhile isWordChar).takeWhile isGap
  have spelled : place = leadingWord place ++ (gap ++ '(' :: tail) := by
    rw [← opens, List.takeWhile_append_dropWhile]
    exact List.takeWhile_append_dropWhile.symm
  rw [word] at spelled
  refine ⟨gap, tail, ?_, ⟨filled, ?_⟩, headEnd?_suffix reached, ?_⟩
  next =>
    rw [isBlankText, List.all_eq_true]
    exact fun c among => isBlank_of_isGap (List.mem_takeWhile_imp among)
  next =>
    rw [← word]
    exact fun c among => List.mem_takeWhile_imp among
  next =>
    rw [← spelled]
    exact (followsSeparator_of_mem_namePlaces inside).of_suffix gapRead.suffix

theorem exists_site_of_read? (found : read? line = some (name, after)) (part : line <:+ code) :
    ∃ site ∈ wordSites code, site.word = name ∧ site.isCall = true ∧
      after.length < site.left ∧ site.left ≤ line.length := by
  obtain ⟨gap, tail, blank, isWord, later, follows⟩ := exists_call_of_read? found
  obtain ⟨read, c, separates, split⟩ := follows
  obtain ⟨above, rfl⟩ := part
  refine ⟨⟨name, gap ++ '(' :: tail⟩, ?_, rfl, (nextIs_iff rfl).mpr ⟨gap, tail, blank, rfl⟩, ?_, ?_⟩
  next =>
    refine mem_wordSites_iff.mpr ⟨above ++ read ++ [c], ?_, ?_, isWord, startsNoWord_gap blank⟩
    next =>
      intro last inside
      obtain rfl : c = last := by simpa using inside
      exact isWordChar_of_isSeparator separates
    next => simp [split]
  next =>
    have shorter := later.length_le
    simp only [WordSite.left, List.length_append, List.length_cons]
    omega
  next =>
    have length := congrArg List.length split
    simp only [List.length_append, List.length_cons] at length
    simp only [WordSite.left, List.length_append, List.length_cons]
    omega

theorem namesFrom_sublist {starts : List Text} (parts : ∀ start ∈ starts, start <:+ code)
    (left : Nat) :
    (namesFrom left starts).Sublist (calledWords (sitesWithin left (wordSites code))) := by
  induction starts generalizing left with
  | nil => exact List.nil_sublist _
  | cons start later ih =>
    have laterParts (other : Text) (inside : other ∈ later) : other <:+ code :=
      parts other (List.mem_cons_of_mem start inside)
    by_cases past : left < start.length
    next =>
      rw [namesFrom_past past]
      exact ih laterParts left
    next =>
      cases found : read? start with
      | none =>
        rw [namesFrom_none found]
        exact ih laterParts left
      | some head =>
        obtain ⟨name, after⟩ := head
        obtain ⟨site, listed, rfl, call, behind, within⟩ :=
          exists_site_of_read? found (parts start List.mem_cons_self)
        rw [namesFrom_some (Nat.le_of_not_lt past) found]
        -- The names below are called behind this head, so not where it calls its own.
        have below := (ih laterParts after.length).cons_cons site.word
        rw [← calledWords_cons call] at below
        apply below.trans
        apply calledWords_sublist
        exact cons_sublist_sitesWithin (sitesFrom_pairwise_left false code) listed
          (within.trans (Nat.le_of_not_lt past)) behind

theorem names_sublist (code : Text) : (names code).Sublist (calledWords (wordSites code)) := by
  apply (namesFrom_sublist (fun _ => lineStarts_suffix) code.length).trans
  exact calledWords_sublist List.filter_sublist

end TypedHead

theorem nodup_eraseDups (names : List Text) : names.eraseDups.Nodup := by
  match names with
  | [] => exact .nil
  | name :: later =>
    rw [List.eraseDups_cons, List.nodup_cons]
    constructor
    next => simp
    next => exact nodup_eraseDups (later.filter fun other => !other == name)
termination_by names.length
decreasing_by exact Nat.lt_succ_of_le (List.length_filter_le _ later)

section

variable {code name : Text} {language : Language}

theorem declaredNames_sublist (known : language ≠ .unidentified) :
    (declaredNames code language).Sublist (calledWords (wordSites code)) := by
  cases language with
  | cpp | java => exact TypedHead.names_sublist code
  | python => exact namesAfter_sublist ["def"] (wordSites code)
  | unidentified => exact absurd rfl known

theorem isWord_of_mem_calledWords (called : name ∈ calledWords (wordSites code)) :
    IsWord name := by
  obtain ⟨site, listed, rfl⟩ := List.mem_map.mp called
  obtain ⟨_, _, _, isWord, _⟩ := mem_wordSites_iff.mp (List.mem_filter.mp listed).1
  exact isWord

theorem mem_declaredFunctions :
    name ∈ declaredFunctions code language ↔
      name ∈ declaredNames code language ∧ name ∉ nonFunctionWords.map String.toList := by
  rw [declaredFunctions, List.mem_eraseDups, List.mem_filter]
  simp [isFunctionName]

theorem isWord_of_mem_declaredNames (known : language ≠ .unidentified)
    (declared : name ∈ declaredNames code language) : IsWord name :=
  isWord_of_mem_calledWords ((declaredNames_sublist known).subset declared)

theorem count_le_callCount (known : language ≠ .unidentified) (name : Text) :
    (declaredNames code language).count name ≤ callCount name code := by
  rw [callCount_eq_count]
  exact (declaredNames_sublist known).count_le name

theorem calledAgain_of_declaredTwice (known : language ≠ .unidentified)
    (twice : 1 < (declaredNames code language).count name) : CalledAgain name code := by
  have declared : name ∈ declaredNames code language := List.count_pos_iff.mp (by omega)
  apply (one_lt_callCount_iff (isWord_of_mem_declaredNames known declared)).mp
  exact twice.trans_le (count_le_callCount known name)

theorem isWord_of_mem_declaredFunctions (known : language ≠ .unidentified)
    (listed : name ∈ declaredFunctions code language) : IsWord name :=
  isWord_of_mem_declaredNames known (mem_declaredFunctions.mp listed).1

theorem callCount_pos (known : language ≠ .unidentified)
    (listed : name ∈ declaredFunctions code language) : 0 < callCount name code := by
  have declared := (mem_declaredFunctions.mp listed).1
  exact (List.count_pos_iff.mpr declared).trans_le (count_le_callCount known name)

theorem not_one_lt_callCount_iff (known : language ≠ .unidentified)
    (listed : name ∈ declaredFunctions code language) :
    ¬ 1 < callCount name code ↔ CalledOnce name code := by
  have positive := callCount_pos known listed
  rw [← callCount_eq_one_iff (isWord_of_mem_declaredFunctions known listed)]
  omega

theorem recursiveFunction?_eq_none_iff (known : language ≠ .unidentified) :
    recursiveFunction? code language = none ↔
      ∀ name ∈ declaredFunctions code language, CalledOnce name code := by
  rw [recursiveFunction?, List.find?_eq_none]
  simp only [decide_eq_true_eq]
  exact forall₂_congr fun name listed => not_one_lt_callCount_iff known listed

theorem recursiveFunction?_eq_some_iff (known : language ≠ .unidentified) :
    recursiveFunction? code language = some name ↔
      ∃ earlier later, declaredFunctions code language = earlier ++ name :: later ∧
        CalledAgain name code ∧ ∀ other ∈ earlier, CalledOnce other code := by
  have listed {earlier later : List Text}
      (split : declaredFunctions code language = earlier ++ name :: later) :
      name ∈ declaredFunctions code language ∧
        ∀ other ∈ earlier, other ∈ declaredFunctions code language := by
    rw [split]
    exact ⟨by simp, fun other inside => List.mem_append_left _ inside⟩
  rw [recursiveFunction?, List.find?_eq_some_iff_append]
  simp only [decide_eq_true_eq, Bool.not_eq_true', decide_eq_false_iff_not]
  constructor
  next =>
    rintro ⟨again, earlier, later, split, others⟩
    obtain ⟨here, before⟩ := listed split
    refine ⟨earlier, later, split, ?_, fun other inside => ?_⟩
    next => exact (one_lt_callCount_iff (isWord_of_mem_declaredFunctions known here)).mp again
    next => exact (not_one_lt_callCount_iff known (before other inside)).mp (others other inside)
  next =>
    rintro ⟨earlier, later, split, again, others⟩
    obtain ⟨here, before⟩ := listed split
    refine ⟨?_, earlier, later, split, fun other inside => ?_⟩
    next => exact (one_lt_callCount_iff (isWord_of_mem_declaredFunctions known here)).mpr again
    next => exact (not_one_lt_callCount_iff known (before other inside)).mpr (others other inside)

end

/-- In a known language each declaration is itself a call of what it declares, so a function that
is called a second time anywhere counts as recursive. -/
theorem declaredFunctions_called (code : Text) {language : Language}
    (known : language ≠ .unidentified) :
    (declaredFunctions code language).Nodup ∧
      (∀ name ∈ declaredFunctions code language,
        name ∉ nonFunctionWords.map String.toList ∧ IsWord name ∧
          ∃ before, CallsAt name code before) ∧
      (recursiveFunction? code language = none ↔
        ∀ name ∈ declaredFunctions code language, CalledOnce name code) ∧
      (∀ name, recursiveFunction? code language = some name ↔
        ∃ earlier later, declaredFunctions code language = earlier ++ name :: later ∧
          CalledAgain name code ∧ ∀ other ∈ earlier, CalledOnce other code) ∧
      ∀ name, 1 < (declaredNames code language).count name → CalledAgain name code := by
  refine ⟨nodup_eraseDups _, fun name listed => ?_, recursiveFunction?_eq_none_iff known,
    fun name => recursiveFunction?_eq_some_iff known,
    fun name => calledAgain_of_declaredTwice known⟩
  have word := isWord_of_mem_declaredFunctions known listed
  exact ⟨(mem_declaredFunctions.mp listed).2, word,
    (callCount_pos_iff word).mp (callCount_pos known listed)⟩

-- One function is declared twice, and neither is called.
def overloadedText : Text :=
  unlines (["int id(int n) \x7b return n; \x7d", "List<int> sum (Row *r)", "\x7b\x7d",
    "int sum(Row row) \x7b\x7d"].map String.toList)

theorem calledAgain_overloadedText :
    Language.java ≠ .unidentified ∧
      declaredFunctions overloadedText .java = ["id".toList, "sum".toList] ∧
      CalledOnce "id".toList overloadedText ∧ CalledAgain "sum".toList overloadedText := by
  have known : Language.java ≠ .unidentified := by decide
  obtain ⟨_, _, _, recursive, twice⟩ := declaredFunctions_called overloadedText known
  have first : recursiveFunction? overloadedText .java = some "sum".toList := by decide +kernel
  have declared : declaredFunctions overloadedText .java = ["id".toList, "sum".toList] := by
    decide +kernel
  obtain ⟨earlier, later, split, _, once⟩ := (recursive _).mp first
  refine ⟨known, declared, ?_, twice _ (by decide +kernel)⟩
  apply once
  have head : earlier.head? = some "id".toList := by
    cases earlier with
    | nil => simp [declared] at split
    | cons other rest => simp_all
  exact List.mem_of_mem_head? head

-- In no known language a declaration is read off without a parenthesis.
example : declaredFunctions "def sum".toList .unidentified = ["sum".toList] ∧
    callCount "sum".toList "def sum".toList = 0 := by decide

end SnippetGauge
