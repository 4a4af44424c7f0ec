import SnippetGauge.Proofs.WrittenScalars

set_option autoImplicit false

namespace SnippetGauge.Json

open Text Mark

theorem isSpace_cases {c : Char} (space : isSpace (.char c) = true) :
    c = ' ' ∨ c = '\t' ∨ c = '\n' ∨ c = '\r' := by
  simpa [isSpace, or_assoc] using space

theorem skipSpace_append {white : Text} (spaces : ∀ c ∈ white, isSpace (.char c) = true)
    (rest : List Mark) : skipSpace (white.map .char ++ rest) = skipSpace rest :=
  List.dropWhile_append_of_pos (by simpa using spaces)

theorem skipSpace_cons {c : Char} (other : isSpace (.char c) = false) (rest : List Mark) :
    skipSpace (.char c :: rest) = .char c :: rest := by
  simp [skipSpace, other]

theorem endsNumber_append {white : Text} (spaces : ∀ c ∈ white, isSpace (.char c) = true)
    {rest : List Mark} (ends : EndsNumber rest) : EndsNumber (white.map .char ++ rest) := by
  cases white with
  | nil => exact ends
  | cons c later =>
    intro mark first
    obtain rfl : .char c = mark := by simpa using first
    rcases isSpace_cases (spaces c (by simp)) with rfl | rfl | rfl | rfl <;> decide

theorem endsNumber_mark {c : Char} (closing : c ∈ [',', ']', '\x7d']) (rest : List Mark) :
    EndsNumber (.char c :: rest) := by
  have marks : ∀ c ∈ [',', ']', '\x7d'],
      isDigitMark (.char c) = false ∧ .char c ∉ [Mark.char '.', .char 'e', .char 'E'] := by
    simp [isDigitMark, isDigit]
  intro mark first
  obtain rfl : .char c = mark := by simpa using first
  exact marks c closing

/-- Only white space stands around the marks between the items. -/
structure Layout.IsPlain (layout : Layout) : Prop where
  comma : ∃ white : Text, layout.comma.toList = ',' :: white ∧ ∀ c ∈ white, isSpace (.char c) = true
  colon : ∃ white : Text, layout.colon.toList = ':' :: white ∧ ∀ c ∈ white, isSpace (.char c) = true

theorem Layout.isPlain_compact : Layout.compact.IsPlain :=
  ⟨⟨[], rfl, by simp⟩, ⟨[], rfl, by simp⟩⟩

theorem Layout.isPlain_spaced : Layout.spaced.IsPlain :=
  ⟨⟨[' '], rfl, by simp [isSpace]⟩, ⟨[' '], rfl, by simp [isSpace]⟩⟩

theorem Layout.isPlain_indented : Layout.indented.IsPlain :=
  ⟨⟨[], rfl, by simp⟩, ⟨[' '], rfl, by simp [isSpace]⟩⟩

theorem Layout.isSpace_break (layout : Layout) (level : Nat) :
    ∀ c ∈ layout.break level, isSpace (.char c) = true := by
  unfold Layout.break
  split
  next => simp
  next =>
    intro c inside
    rcases List.mem_cons.mp inside with rfl | inside
    · rfl
    · rw [List.eq_of_mem_replicate inside]
      rfl

/-- A value without fractions whose integers are not too long and whose containers are nested at
most `depth` deep. -/
inductive Readable : (depth : Nat) → Json → Prop
  | null {depth : Nat} : Readable depth null
  | bool {depth : Nat} (value : Bool) : Readable depth (bool value)
  | int {depth : Nat} {n : Int} (short : (Nat.toDigits 10 n.natAbs).length ≤ maxIntegerDigits) :
    Readable depth (int n)
  | str {depth : Nat} (value : String) : Readable depth (str value)
  | brokenStr {depth : Nat} {marks : List Mark} (broken : chars? marks = none)
    (unpaired : Unpaired marks) : Readable depth (brokenStr marks)
  | arr {depth : Nat} {items : List Json} (each : ∀ item ∈ items, Readable depth item) :
    Readable (depth + 1) (arr items)
  | obj {depth : Nat} {members : List (String × Json)}
    (each : ∀ member ∈ members, Readable depth member.2) : Readable (depth + 1) (obj members)

theorem readable_ofMarks {depth : Nat} {marks : List Mark} (unpaired : Unpaired marks) :
    Readable depth (ofMarks marks) := by
  cases found : chars? marks with
  | none => simpa only [ofMarks, found] using .brokenStr found unpaired
  | some text => simpa only [ofMarks, found] using .str (String.ofList text)

variable {layout : Layout} {depth level : Nat}

theorem exists_write_cons (layout : Layout) (level : Nat) {value : Json}
    (readable : Readable depth value) :
    ∃ c more, write layout level value = c :: more ∧ isSpace (.char c) = false ∧ c ≠ ']' := by
  have bracket (first last : Char) (items : List Text) :
      ∃ more, bracketed layout level first last items = first :: more := by
    cases items <;> exact ⟨_, rfl⟩
  cases readable with
  | null => exact ⟨'n', _, rfl, by decide, by decide⟩
  | bool value => cases value <;> exact ⟨_, _, rfl, by decide, by decide⟩
  | int =>
    have apart {d : Char} (digit : isDigit d = true) : isSpace (.char d) = false ∧ d ≠ ']' := by
      constructor
      · by_contra space
        rcases isSpace_cases (by simpa using space) with rfl | rfl | rfl | rfl <;>
          simp [isDigit] at digit
      · rintro rfl
        simp [isDigit] at digit
    obtain ⟨c, more, written, digit | ⟨rfl, -⟩⟩ := exists_writeInt_cons ‹Int›
    · exact ⟨c, more, written, apart digit⟩
    · exact ⟨'-', more, written, by decide, by decide⟩
  | str | brokenStr => exact ⟨'"', _, rfl, by decide, by decide⟩
  | @arr _ items _ =>
    obtain ⟨more, written⟩ := bracket '[' ']' (writeItems layout (level + 1) items)
    exact ⟨'[', more, by rw [write, written], by decide, by decide⟩
  | @obj _ members _ =>
    obtain ⟨more, written⟩ := bracket '\x7b' '\x7d' (writeMembers layout (level + 1) members)
    exact ⟨'\x7b', more, by rw [write, written], by decide, by decide⟩

theorem skipSpace_write {value : Json} (readable : Readable depth value) (rest : List Mark) :
    skipSpace ((write layout level value).map .char ++ rest) =
      (write layout level value).map .char ++ rest := by
  obtain ⟨c, more, written, other, -⟩ := exists_write_cons layout level readable
  rw [written, List.map_cons, List.cons_append, skipSpace_cons other]

def ReadsBack (layout : Layout) (depth level : Nat) (value : Json) : Prop :=
  ∀ (fuel : Nat) (rest : List Mark), EndsNumber rest →
    2 * (write layout level value).length ≤ fuel →
      readValue fuel depth ((write layout level value).map .char ++ rest) = .ok (value, rest)

def followers (layout : Layout) (level : Nat) (texts : List Text) : Text :=
  texts.flatMap fun next => layout.comma.toList ++ layout.break level ++ next

theorem followers_cons (text : Text) (later : List Text) :
    followers layout level (text :: later) =
      layout.comma.toList ++ layout.break level ++ text ++ followers layout level later := by
  simp [followers]

theorem readItems_write (plain : layout.IsPlain) {white : Text}
    (spaces : ∀ c ∈ white, isSpace (.char c) = true) (rest : List Mark) (item : Json)
    (later : List Json) (fuel : Nat)
    (reads : ∀ other ∈ item :: later, Readable depth other ∧ ReadsBack layout depth level other)
    (enough : 2 * (write layout level item ++
      followers layout level (writeItems layout level later)).length < fuel) :
    readItems fuel depth ((write layout level item ++
        followers layout level (writeItems layout level later) ++ white).map .char ++
          .char ']' :: rest) = .ok (item :: later, rest) := by
  -- On the items to come, since reading one of them leaves the next in front; each takes one fuel.
  induction later generalizing item fuel with
  | nil =>
    obtain ⟨fuel, rfl⟩ : ∃ less, fuel = less + 1 := ⟨fuel - 1, by omega⟩
    have here := (reads item (by simp)).2
    have ends := endsNumber_append spaces (endsNumber_mark (c := ']') (by simp) rest)
    simp only [writeItems, followers, List.flatMap_nil, List.append_nil, List.map_append,
      List.append_assoc] at enough ⊢
    rw [readItems, here fuel _ ends (by omega)]
    simp [bind, Except.bind, pure, Except.pure, skipSpace_append spaces,
      skipSpace_cons (c := ']') (by decide)]
  | cons next more ih =>
    obtain ⟨fuel, rfl⟩ : ∃ less, fuel = less + 1 := ⟨fuel - 1, by omega⟩
    obtain ⟨gap, comma, blank⟩ := plain.comma
    have here := (reads item (by simp)).2
    have there := ih next fuel (fun other inside => reads other (by simp_all))
    simp only [writeItems, followers_cons, comma, List.map_append, List.append_assoc, List.map_cons,
      List.cons_append, List.length_append, List.length_cons] at enough there ⊢
    rw [readItems, here fuel _ (endsNumber_mark (by simp) _) (by omega)]
    simp only [bind, Except.bind, skipSpace_cons (c := ',') (by decide), skipSpace_append blank,
      skipSpace_append (layout.isSpace_break level), skipSpace_write (reads next (by simp)).1,
      there (by omega), pure, Except.pure]

theorem keyOf_toList (key : String) : keyOf (key.toList.map .char) = key := by
  have shown : (key.toList.map Mark.char).map Mark.shown = key.toList := by
    simp [Function.comp_def, Mark.shown, Mark.char?]
  rw [keyOf, shown, String.ofList_toList]

def writeMember (layout : Layout) (level : Nat) (member : String × Json) : Text :=
  writeString member.1.toList ++ layout.colon.toList ++ write layout level member.2

theorem readMembers_member (plain : layout.IsPlain) {member : String × Json}
    {later : List (String × Json)} {fuel : Nat} {rest left : List Mark}
    (readable : Readable depth member.2) (reads : ReadsBack layout depth level member.2)
    (ends : EndsNumber rest) (enough : 2 * (writeMember layout level member).length ≤ fuel)
    (tail : skipSpace rest = .char '\x7d' :: left ∧ later = [] ∨
      ∃ after, skipSpace rest = .char ',' :: after ∧
        readMembers fuel depth (skipSpace after) = .ok (later, left)) :
    readMembers (fuel + 1) depth ((writeMember layout level member).map .char ++ rest) =
      .ok (member :: later, left) := by
  obtain ⟨gap, colon, blank⟩ := plain.colon
  have value := reads fuel rest ends (by
    simp only [writeMember, List.length_append] at enough
    omega)
  simp only [writeMember, writeString, colon, List.cons_append, List.map_cons, List.map_append,
    List.append_assoc, List.nil_append, readMembers, readMarks_writeString, bind, Except.bind,
    keyOf_toList, skipSpace_cons (c := ':') (by decide), skipSpace_append blank,
    skipSpace_write readable, value, pure, Except.pure]
  rcases tail with ⟨closed, rfl⟩ | ⟨after, comma, read⟩
  · simp only [closed]
  · simp only [comma, read]

theorem writeMembers_cons (member : String × Json) (later : List (String × Json)) :
    writeMembers layout level (member :: later) =
      writeMember layout level member :: writeMembers layout level later := rfl

theorem skipSpace_writeMember (member : String × Json) (rest : List Mark) :
    skipSpace ((writeMember layout level member).map .char ++ rest) =
      (writeMember layout level member).map .char ++ rest :=
  skipSpace_cons (c := '"') (by decide) _

theorem readMembers_write (plain : layout.IsPlain) {white : Text}
    (spaces : ∀ c ∈ white, isSpace (.char c) = true) (rest : List Mark) (member : String × Json)
    (later : List (String × Json)) (fuel : Nat)
    (reads : ∀ other ∈ member :: later,
      Readable depth other.2 ∧ ReadsBack layout depth level other.2)
    (enough : 2 * (writeMember layout level member ++
      followers layout level (writeMembers layout level later)).length < fuel) :
    readMembers fuel depth ((writeMember layout level member ++
        followers layout level (writeMembers layout level later) ++ white).map .char ++
          .char '\x7d' :: rest) = .ok (member :: later, rest) := by
  induction later generalizing member fuel with
  | nil =>
    obtain ⟨fuel, rfl⟩ : ∃ less, fuel = less + 1 := ⟨fuel - 1, by omega⟩
    obtain ⟨readable, here⟩ := reads member (by simp)
    have ends := endsNumber_append spaces (endsNumber_mark (c := '\x7d') (by simp) rest)
    simp only [writeMembers, followers, List.flatMap_nil, List.append_nil, List.map_append,
      List.append_assoc] at enough ⊢
    have closed := (skipSpace_append spaces _).trans (skipSpace_cons (c := '\x7d') (by decide) rest)
    exact readMembers_member plain readable here ends (by omega) (.inl ⟨closed, rfl⟩)
  | cons next more ih =>
    obtain ⟨fuel, rfl⟩ : ∃ less, fuel = less + 1 := ⟨fuel - 1, by omega⟩
    obtain ⟨gap, comma, blank⟩ := plain.comma
    obtain ⟨readable, here⟩ := reads member (by simp)
    have there := ih next fuel (fun other inside => reads other (by simp_all))
    simp only [writeMembers_cons, followers_cons, comma, List.map_append, List.append_assoc,
      List.map_cons, List.cons_append, List.length_append, List.length_cons] at enough there ⊢
    refine readMembers_member plain readable here (endsNumber_mark (by simp) _) (by omega)
      (.inr ⟨_, skipSpace_cons (by decide) _, ?_⟩)
    rw [skipSpace_append blank, skipSpace_append (layout.isSpace_break level),
      skipSpace_writeMember, there (by omega)]

theorem bracketed_cons (first last : Char) (item : Text) (later : List Text) :
    bracketed layout level first last (item :: later) =
      first :: (layout.break (level + 1) ++
        (item ++ followers layout (level + 1) later ++ layout.break level ++ [last])) := by
  simp [bracketed, followers]

theorem readValue_of_scalar {c : Char} (plain : c ∉ ['"', '[', '\x7b']) (fuel : Nat)
    (rest : List Mark) :
    readValue (fuel + 1) depth (.char c :: rest) = readScalar (.char c :: rest) := by
  simp only [List.mem_cons, List.not_mem_nil, or_false, not_or] at plain
  rw [readValue]
  all_goals simp [plain]

theorem readValue_writeInt {n : Int} (short : (Nat.toDigits 10 n.natAbs).length ≤ maxIntegerDigits)
    (fuel : Nat) {rest : List Mark} (ends : EndsNumber rest) :
    readValue (fuel + 1) depth ((writeInt n).map .char ++ rest) = .ok (int n, rest) := by
  have marks : ∀ c ∈ ['"', '[', '\x7b'], isDigit c = false ∧ c ≠ '-' := by simp [isDigit]
  obtain ⟨c, more, written, start⟩ := exists_writeInt_cons n
  have plain : c ∉ ['"', '[', '\x7b'] := by
    intro inside
    obtain ⟨other, unsigned⟩ := marks c inside
    rcases start with digit | ⟨sign, -⟩
    · simp [other] at digit
    · exact unsigned sign
  have read := readScalar_writeInt short ends
  rw [written, List.map_cons, List.cons_append] at read ⊢
  rw [readValue_of_scalar plain, read]

theorem readValue_items {rest inner : List Mark} (found : skipSpace rest = inner)
    (filled : ∀ after, inner ≠ .char ']' :: after) (fuel : Nat) :
    readValue (fuel + 1) (depth + 1) (.char '[' :: rest) =
      (readItems fuel depth inner).map fun (items, after) => (arr items, after) := by
  subst found
  simp only [readValue]
  cases readItems fuel depth (skipSpace rest) <;> rfl

theorem readValue_members {rest inner : List Mark} (found : skipSpace rest = inner)
    (filled : ∀ after, inner ≠ .char '\x7d' :: after) (fuel : Nat) :
    readValue (fuel + 1) (depth + 1) (.char '\x7b' :: rest) =
      (readMembers fuel depth inner).map fun (members, after) => (obj members, after) := by
  subst found
  simp only [readValue]
  cases readMembers fuel depth (skipSpace rest) <;> rfl

theorem ReadsBack.of_succ {value : Json} (readable : Readable depth value)
    (read : ∀ (fuel : Nat) (rest : List Mark), EndsNumber rest →
      2 * (write layout level value).length ≤ fuel + 1 →
        readValue (fuel + 1) depth ((write layout level value).map .char ++ rest) =
          .ok (value, rest)) : ReadsBack layout depth level value := by
  intro fuel rest ends enough
  -- A written value is never empty, so some fuel is there.
  obtain ⟨c, more, written, -⟩ := exists_write_cons layout level readable
  have positive : 0 < fuel := by
    rw [written, List.length_cons] at enough
    omega
  obtain ⟨less, rfl⟩ : ∃ less, fuel = less + 1 := ⟨fuel - 1, by omega⟩
  exact read less rest ends enough

theorem readsBack_arr (plain : layout.IsPlain) {items : List Json}
    (each : ∀ item ∈ items, Readable depth item ∧ ReadsBack layout depth (level + 1) item) :
    ReadsBack layout (depth + 1) level (arr items) := by
  refine .of_succ (.arr fun item inside => (each item inside).1) fun fuel rest ends enough => ?_
  cases items with
  | nil => simp [write, writeItems, bracketed, readValue, skipSpace, isSpace]
  | cons item later =>
    have first := (each item (by simp)).1
    have inner := readItems_write plain (layout.isSpace_break level) rest item later fuel each
    have found (tail : List Mark) : skipSpace ((layout.break (level + 1)).map .char ++
        ((write layout (level + 1) item).map .char ++ tail)) =
          (write layout (level + 1) item).map .char ++ tail := by
      rw [skipSpace_append (layout.isSpace_break (level + 1)), skipSpace_write first]
    obtain ⟨c, more, written, -, unclosed⟩ := exists_write_cons layout (level + 1) first
    have filled (tail after : List Mark) :
        (write layout (level + 1) item).map .char ++ tail ≠ .char ']' :: after := by
      simp [written, unclosed]
    simp only [write, writeItems, bracketed_cons, List.map_cons, List.map_append,
      List.cons_append, List.nil_append, List.map_nil, List.append_assoc, List.length_cons,
      List.length_append] at enough inner ⊢
    rw [readValue_items (found _) (filled _), inner (by omega)]
    rfl

theorem readsBack_obj (plain : layout.IsPlain) {members : List (String × Json)}
    (each : ∀ member ∈ members,
      Readable depth member.2 ∧ ReadsBack layout depth (level + 1) member.2) :
    ReadsBack layout (depth + 1) level (obj members) := by
  refine .of_succ (.obj fun member inside => (each member inside).1) fun fuel rest ends enough => ?_
  cases members with
  | nil => simp [write, writeMembers, bracketed, readValue, skipSpace, isSpace]
  | cons member later =>
    have inner := readMembers_write plain (layout.isSpace_break level) rest member later fuel each
    have found (tail : List Mark) : skipSpace ((layout.break (level + 1)).map .char ++
        ((writeMember layout (level + 1) member).map .char ++ tail)) =
          (writeMember layout (level + 1) member).map .char ++ tail := by
      rw [skipSpace_append (layout.isSpace_break (level + 1)), skipSpace_writeMember]
    have filled (tail after : List Mark) :
        (writeMember layout (level + 1) member).map .char ++ tail ≠ .char '\x7d' :: after := by
      simp [writeMember, writeString]
    simp only [write, writeMembers_cons, bracketed_cons, List.map_cons, List.map_append,
      List.cons_append, List.nil_append, List.map_nil, List.append_assoc, List.length_cons,
      List.length_append] at enough inner ⊢
    rw [readValue_members (found _) (filled _), inner (by omega)]
    rfl

theorem readsBack (plain : layout.IsPlain) {value : Json} (readable : Readable depth value)
    (level : Nat) : ReadsBack layout depth level value := by
  induction readable generalizing level with
  | null =>
    refine .of_succ .null fun fuel rest ends enough => ?_
    simp [write, readValue, readScalar, constants, dropWord?]
  | bool value =>
    refine .of_succ (.bool value) fun fuel rest ends enough => ?_
    cases value <;> simp [write, readValue, readScalar, constants, dropWord?]
  | int short =>
    exact .of_succ (.int short) fun fuel rest ends _ => readValue_writeInt short fuel ends
  | str value =>
    refine .of_succ (.str value) fun fuel rest ends enough => ?_
    simp [write, writeString, readValue, readMarks_writeString, bind, Except.bind, pure, Except.pure,
      ofMarks, chars?_map_char]
  | brokenStr broken unpaired =>
    refine .of_succ (.brokenStr broken unpaired) fun fuel rest ends enough => ?_
    simp [write, readValue, readMarks_escaped unpaired, bind, Except.bind, pure, Except.pure, ofMarks,
      broken]
  | arr each ih =>
    exact readsBack_arr plain fun item inside => ⟨each item inside, ih item inside (level + 1)⟩
  | obj each ih =>
    exact readsBack_obj plain fun member inside =>
      ⟨each member inside, ih member inside (level + 1)⟩

theorem parse_write (plain : layout.IsPlain) {value : Json} (readable : Readable maxDepth value)
    (white : Text) (spaces : ∀ c ∈ white, isSpace (.char c) = true) :
    parse (write layout 0 value ++ white) = .ok value := by
  have none : EndsNumber [] := by simp [EndsNumber]
  have ends : EndsNumber (white.map .char) := by simpa using endsNumber_append spaces none
  have read := readsBack plain readable 0 (2 * (write layout 0 value ++ white).length + 2)
    (white.map .char) ends (by simp only [List.length_append]; omega)
  have left : skipSpace (white.map .char) = [] := by
    simpa [skipSpace] using skipSpace_append spaces []
  simp only [parse, parseMarks, readAll, List.map_append, skipSpace_write readable,
    List.length_append, List.length_map] at read ⊢
  simp [read, bind, Except.bind, left, pure, Except.pure, Except.mapError]

end SnippetGauge.Json
