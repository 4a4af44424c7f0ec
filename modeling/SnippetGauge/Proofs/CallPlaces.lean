import Mathlib.Data.List.TakeWhile
import SnippetGauge.Text.Word

set_option autoImplicit false

namespace SnippetGauge.Text

structure IsWord (word : Text) : Prop where
  filled : word ≠ []
  whole : ∀ c ∈ word, isWordChar c = true

def EndsNoWord (before : Text) : Prop := ∀ c ∈ before.getLast?, isWordChar c = false

def StartsNoWord (after : Text) : Prop := ∀ c ∈ after.head?, isWordChar c = false

/-- Behind `before` the text goes on with the whole word, with white space if any, and with an
opening parenthesis. -/
def CallsAt (name text before : Text) : Prop :=
  EndsNoWord before ∧ ∃ gap after, isBlankText gap = true ∧
    text = before ++ (name ++ (gap ++ '(' :: after))

def CalledOnce (name text : Text) : Prop := ∃! before, CallsAt name text before

def CalledAgain (name text : Text) : Prop :=
  ∃ first second, first ≠ second ∧ CallsAt name text first ∧ CallsAt name text second

def blankCodes : List Nat :=
  List.range' 9 5 ++ List.range' 28 5 ++ [0x85, 0xA0, 0x1680] ++ List.range' 0x2000 11 ++
    [0x2028, 0x2029, 0x202F, 0x205F, 0x3000]

theorem of_isBlank (holds : Char → Prop) (table : ∀ n ∈ blankCodes, holds (Char.ofNat n)) {c : Char}
    (blank : isBlank c = true) : holds c := by
  rw [← Char.ofNat_toNat c]
  apply table
  simp [isBlank] at blank
  simp [blankCodes]
  omega

theorem isWordChar_of_isBlank {c : Char} (blank : isBlank c = true) : isWordChar c = false :=
  of_isBlank (isWordChar · = false) (by decide +kernel) blank

section Sites

variable {word after text : Text} {inside : Bool} {site : WordSite}

def WordSite.left (site : WordSite) : Nat := site.word.length + site.after.length

theorem leadingWord_append (isWord : IsWord word) (apart : StartsNoWord after) :
    leadingWord (word ++ after) = word := by
  have none : after.takeWhile isWordChar = [] := by
    cases after with
    | nil => rfl
    | cons c rest => exact List.takeWhile_cons_of_neg (by simp [apart c rfl])
  rw [leadingWord, List.takeWhile_append_of_pos isWord.whole, none, List.append_nil]

theorem dropWhile_append_word (isWord : IsWord word) (apart : StartsNoWord after) :
    (word ++ after).dropWhile isWordChar = after := by
  rw [List.dropWhile_append_of_pos isWord.whole]
  cases after with
  | nil => rfl
  | cons c rest => exact List.dropWhile_cons_of_neg (by simp [apart c rfl])

theorem startsNoWord_dropWhile (text : Text) : StartsNoWord (text.dropWhile isWordChar) := by
  intro c first
  have stops := List.head?_dropWhile_not isWordChar text
  rw [Option.mem_def.mp first] at stops
  exact stops

theorem endsNoWord_cons {c : Char} {before : Text} :
    EndsNoWord (c :: before) ↔
      EndsNoWord before ∧ (before = [] → isWordChar c = false) := by
  cases before with
  | nil => simp [EndsNoWord]
  | cons d rest => simp [EndsNoWord, List.getLast?_cons]

theorem splits_iff :
    (text = word ++ after ∧ IsWord word ∧ StartsNoWord after) ↔
      leadingWord text = word ∧ word ≠ [] ∧ text.dropWhile isWordChar = after := by
  constructor
  next =>
    rintro ⟨rfl, isWord, apart⟩
    exact ⟨leadingWord_append isWord apart, isWord.filled, dropWhile_append_word isWord apart⟩
  next =>
    rintro ⟨rfl, filled, rfl⟩
    have whole : ∀ c ∈ leadingWord text, isWordChar c = true :=
      fun c inside => List.mem_takeWhile_imp inside
    exact ⟨List.takeWhile_append_dropWhile.symm, ⟨filled, whole⟩, startsNoWord_dropWhile text⟩

-- `inside` tells, as for the sites, that the character before the text belongs to a word.
def StandsIn (inside : Bool) (text : Text) (site : WordSite) : Prop :=
  ∃ before, EndsNoWord before ∧ (before = [] → inside = false) ∧
    text = before ++ (site.word ++ site.after) ∧ IsWord site.word ∧ StartsNoWord site.after

theorem standsIn_cons {c : Char} {rest : Text} :
    StandsIn inside (c :: rest) site ↔
      inside = false ∧
          (c :: rest = site.word ++ site.after ∧ IsWord site.word ∧ StartsNoWord site.after) ∨
        StandsIn (isWordChar c) rest site := by
  constructor
  next =>
    rintro ⟨before, ends, outside, split, stands⟩
    cases before with
    | nil => exact .inl ⟨outside rfl, split, stands⟩
    | cons d before =>
      obtain ⟨rfl, below⟩ := List.cons.inj split
      obtain ⟨ends, first⟩ := endsNoWord_cons.mp ends
      exact .inr ⟨before, ends, first, below, stands⟩
  next =>
    rintro (⟨outside, split, stands⟩ | ⟨before, ends, first, split, stands⟩)
    next => exact ⟨[], by simp [EndsNoWord], fun _ => outside, split, stands⟩
    next => exact ⟨c :: before, endsNoWord_cons.mpr ⟨ends, first⟩, by simp, by simp [split], stands⟩

theorem mem_sitesFrom_cons {c : Char} {rest : Text} :
    site ∈ sitesFrom inside (c :: rest) ↔
      inside = false ∧ isWordChar c = true ∧
          site = ⟨leadingWord (c :: rest), (c :: rest).dropWhile isWordChar⟩ ∨
        site ∈ sitesFrom (isWordChar c) rest := by
  cases letter : isWordChar c <;> cases inside <;> simp [sitesFrom, leadingWord, letter]

theorem mem_sitesFrom_iff : site ∈ sitesFrom inside text ↔ StandsIn inside text site := by
  induction text generalizing inside with
  | nil =>
    constructor
    next => simp [sitesFrom]
    next =>
      rintro ⟨before, _, _, split, isWord, _⟩
      simp [isWord.filled] at split
  | cons c rest ih =>
    rw [mem_sitesFrom_cons, standsIn_cons, ih, splits_iff]
    apply or_congr_left
    rcases site with ⟨word, after⟩
    have filled : leadingWord (c :: rest) ≠ [] ↔ isWordChar c = true := by
      cases letter : isWordChar c <;> simp [leadingWord, letter]
    constructor
    next =>
      rintro ⟨outside, letter, same⟩
      obtain ⟨rfl, rfl⟩ := WordSite.mk.inj same
      exact ⟨outside, rfl, filled.mpr letter, rfl⟩
    next =>
      rintro ⟨outside, rfl, some, rfl⟩
      exact ⟨outside, filled.mp some, rfl⟩

theorem sitesFrom_pairwise_left (inside : Bool) (text : Text) :
    (sitesFrom inside text).Pairwise fun first second => second.left < first.left := by
  induction text generalizing inside with
  | nil => exact .nil
  | cons c rest ih =>
    have later := ih (isWordChar c)
    have below : ∀ site ∈ sitesFrom (isWordChar c) rest, site.left ≤ rest.length := by
      intro site found
      obtain ⟨before, _, _, split, _⟩ := mem_sitesFrom_iff.mp found
      rw [split, List.length_append, List.length_append]
      exact Nat.le_add_left _ _
    cases letter : isWordChar c with
    | false => simpa [sitesFrom, letter] using later
    | true =>
      rw [letter] at later below
      cases inside with
      | true => simpa [sitesFrom, letter] using later
      | false =>
        simp only [sitesFrom, letter, if_true, Bool.false_eq_true, if_false, List.pairwise_cons]
        refine ⟨fun site found => ?_, later⟩
        have whole := List.takeWhile_append_dropWhile (p := isWordChar) (l := rest)
        have length := congrArg List.length whole
        have bound := below site found
        rw [List.length_append] at length
        simp only [WordSite.left, leadingWord, List.length_cons] at bound ⊢
        omega

theorem mem_wordSites_iff :
    site ∈ wordSites text ↔ ∃ before, EndsNoWord before ∧
      text = before ++ (site.word ++ site.after) ∧ IsWord site.word ∧
        StartsNoWord site.after := by
  rw [wordSites, mem_sitesFrom_iff]
  simp [StandsIn]

end Sites

section Calls

variable {name text before : Text}

theorem nextIs_iff {mark : Char} (filled : isBlank mark = false) {after : Text} :
    nextIs mark after = true ↔
      ∃ gap rest, isBlankText gap = true ∧ after = gap ++ mark :: rest := by
  rw [nextIs, beq_iff_eq]
  constructor
  next =>
    intro first
    have split := List.takeWhile_append_dropWhile (p := isBlank) (l := after)
    obtain ⟨rest, found⟩ := List.head?_eq_some_iff.mp first
    refine ⟨after.takeWhile isBlank, rest, List.all_takeWhile, ?_⟩
    rw [← found]
    exact split.symm
  next =>
    rintro ⟨gap, rest, blank, rfl⟩
    rw [trimStart_append_of_blank blank]
    simp [trimStart, filled]

theorem startsNoWord_gap {gap rest : Text} (blank : isBlankText gap = true) :
    StartsNoWord (gap ++ '(' :: rest) := by
  cases gap with
  | nil =>
    rintro c ⟨⟩
    rfl
  | cons c gap =>
    rintro _ ⟨⟩
    exact isWordChar_of_isBlank (List.all_eq_true.mp blank c List.mem_cons_self)

theorem callsAt_iff (isWord : IsWord name) :
    CallsAt name text before ↔
      ∃ site ∈ wordSites text, site.word = name ∧ site.isCall = true ∧
        text = before ++ (site.word ++ site.after) := by
  constructor
  next =>
    rintro ⟨ends, gap, after, blank, split⟩
    refine ⟨⟨name, gap ++ '(' :: after⟩, ?_, rfl, ?_, split⟩
    next =>
      exact mem_wordSites_iff.mpr ⟨before, ends, split, isWord, startsNoWord_gap blank⟩
    next => exact (nextIs_iff rfl).mpr ⟨gap, after, blank, rfl⟩
  next =>
    rintro ⟨site, found, rfl, call, split⟩
    obtain ⟨prior, ends, same, _⟩ := mem_wordSites_iff.mp found
    obtain ⟨gap, after, blank, spelled⟩ := (nextIs_iff rfl).mp call
    obtain rfl : prior = before := List.append_cancel_right (same.symm.trans split)
    exact ⟨ends, gap, after, blank, spelled ▸ split⟩

def callSites (name text : Text) : List WordSite :=
  (wordSites text).filter fun site => site.word == name && site.isCall

theorem callCount_eq_length (name text : Text) :
    callCount name text = (callSites name text).length :=
  List.countP_eq_length_filter

theorem mem_callSites {site : WordSite} :
    site ∈ callSites name text ↔
      site ∈ wordSites text ∧ site.word = name ∧ site.isCall = true := by
  simp [callSites]

theorem callCount_pos_iff (isWord : IsWord name) :
    0 < callCount name text ↔ ∃ before, CallsAt name text before := by
  rw [callCount_eq_length, List.length_pos_iff_exists_mem]
  constructor
  next =>
    rintro ⟨site, listed⟩
    obtain ⟨found, same, call⟩ := mem_callSites.mp listed
    obtain ⟨before, _, split, _⟩ := mem_wordSites_iff.mp found
    exact ⟨before, (callsAt_iff isWord).mpr ⟨site, found, same, call, split⟩⟩
  next =>
    rintro ⟨before, calls⟩
    obtain ⟨site, found, same, call, _⟩ := (callsAt_iff isWord).mp calls
    exact ⟨site, mem_callSites.mpr ⟨found, same, call⟩⟩

theorem one_lt_callCount_iff (isWord : IsWord name) :
    1 < callCount name text ↔ CalledAgain name text := by
  have place {site : WordSite} (listed : site ∈ callSites name text) :
      ∃ before, CallsAt name text before ∧ text = before ++ (site.word ++ site.after) := by
    obtain ⟨found, same, call⟩ := mem_callSites.mp listed
    obtain ⟨before, _, split, _⟩ := mem_wordSites_iff.mp found
    exact ⟨before, (callsAt_iff isWord).mpr ⟨site, found, same, call, split⟩, split⟩
  have apart : (callSites name text).Pairwise fun first second => second.left < first.left :=
    (sitesFrom_pairwise_left false text).filter _
  rw [callCount_eq_length]
  constructor
  next =>
    intro many
    match same : callSites name text with
    | [] => simp [same] at many
    | [site] => simp [same] at many
    | site :: other :: later =>
      rw [same] at place apart
      obtain ⟨first, calls, split⟩ := place List.mem_cons_self
      obtain ⟨second, again, splitAgain⟩ := place (List.mem_cons_of_mem _ List.mem_cons_self)
      refine ⟨first, second, ?_, calls, again⟩
      rintro rfl
      have equal := congrArg List.length (List.append_cancel_left (split.symm.trans splitAgain))
      have less := (List.pairwise_cons.mp apart).1 other List.mem_cons_self
      rw [List.length_append, List.length_append] at equal
      exact Nat.ne_of_gt less equal
  next =>
    rintro ⟨first, second, differ, calls, again⟩
    obtain ⟨site, found, named, call, split⟩ := (callsAt_iff isWord).mp calls
    obtain ⟨other, foundOther, namedOther, callOther, splitOther⟩ := (callsAt_iff isWord).mp again
    have listed : site ∈ callSites name text := mem_callSites.mpr ⟨found, named, call⟩
    have listedOther : other ∈ callSites name text :=
      mem_callSites.mpr ⟨foundOther, namedOther, callOther⟩
    by_contra few
    obtain ⟨only, same⟩ := List.length_eq_one_iff.mp
      (Nat.le_antisymm (Nat.le_of_not_lt few) (List.length_pos_of_mem listed))
    rw [same, List.mem_singleton] at listed listedOther
    subst listed listedOther
    exact differ (List.append_cancel_right (split.symm.trans splitOther))

theorem callCount_eq_one_iff (isWord : IsWord name) :
    callCount name text = 1 ↔ CalledOnce name text := by
  have once : callCount name text = 1 ↔
      0 < callCount name text ∧ ¬ 1 < callCount name text := by omega
  rw [once, callCount_pos_iff isWord, one_lt_callCount_iff isWord]
  constructor
  next =>
    rintro ⟨⟨before, calls⟩, single⟩
    refine ⟨before, calls, fun other again => ?_⟩
    by_contra differ
    exact single ⟨other, before, differ, again, calls⟩
  next =>
    rintro ⟨before, calls, unique⟩
    refine ⟨⟨before, calls⟩, ?_⟩
    rintro ⟨first, second, differ, here, there⟩
    exact differ ((unique first here).trans (unique second there).symm)

end Calls

end SnippetGauge.Text
