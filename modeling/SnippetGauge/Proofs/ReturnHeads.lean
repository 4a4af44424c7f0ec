import SnippetGauge.Proofs.ReturnDeclarations

set_option autoImplicit false

namespace SnippetGauge.Text

def FollowsBreak (later text : Text) : Prop := ∃ before, text = before ++ '\n' :: later

theorem FollowsBreak.cons {later text : Text} (h : FollowsBreak later text) (c : Char) :
    FollowsBreak later (c :: text) := by
  obtain ⟨before, rfl⟩ := h
  exact ⟨c :: before, rfl⟩

theorem FollowsBreak.suffix {later text : Text} (h : FollowsBreak later text) :
    later <:+ text := by
  obtain ⟨before, rfl⟩ := h
  exact ⟨before ++ ['\n'], by simp⟩

theorem followsBreak_of_mem_afterBreaks {text later : Text}
    (inside : later ∈ lineStarts.afterBreaks text) : FollowsBreak later text := by
  induction text with
  | nil => simp [lineStarts.afterBreaks] at inside
  | cons c rest ih =>
    simp only [lineStarts.afterBreaks] at inside
    split at inside
    next ends =>
      rw [List.mem_cons] at inside
      rcases inside with rfl | inside
      · exact ⟨[], by simpa using ends⟩
      · exact (ih inside).cons c
    next => exact (ih inside).cons c

theorem afterBreaks_pairwise (text : Text) :
    (lineStarts.afterBreaks text).Pairwise fun start later => FollowsBreak later start := by
  induction text with
  | nil => simp [lineStarts.afterBreaks]
  | cons c rest ih =>
    simp only [lineStarts.afterBreaks]
    split
    · exact List.pairwise_cons.mpr ⟨fun _ => followsBreak_of_mem_afterBreaks, ih⟩
    · exact ih

theorem lineStarts_pairwise (text : Text) :
    (lineStarts text).Pairwise fun start later => FollowsBreak later start :=
  List.pairwise_cons.mpr ⟨fun _ => followsBreak_of_mem_afterBreaks, afterBreaks_pairwise text⟩

theorem lineStarts_suffix {text start : Text} (inside : start ∈ lineStarts text) :
    start <:+ text := by
  rw [lineStarts, List.mem_cons] at inside
  rcases inside with rfl | inside
  · exact List.suffix_refl _
  · exact (followsBreak_of_mem_afterBreaks inside).suffix

theorem lineStarts_dropReturns (text : Text) :
    lineStarts (dropReturns text) = (lineStarts text).map dropReturns := by
  have later : lineStarts.afterBreaks (dropReturns text) =
      (lineStarts.afterBreaks text).map dropReturns := by
    induction text with
    | nil => rfl
    | cons c rest ih =>
      by_cases dropped : c = '\r'
      · subst dropped
        exact ih
      · rw [dropReturns_cons dropped]
        simp only [lineStarts.afterBreaks, ih]
        split <;> rfl
  rw [lineStarts, later]
  rfl

end SnippetGauge.Text

namespace SnippetGauge.TypedHead

open Text

variable {line start rest : Text}

/-- What follows a head that only a carriage return keeps from ending with its line. -/
def brokenEnd? (line : Text) : Option Text :=
  (afterParameters? line).bind fun after => afterReturn? (afterConst after)

structure Head where
  name : Text
  after : Text
  broken : Bool

def head? (line : Text) : Option Head :=
  (headName? line).bind fun name =>
    ((headEnd? line).map (⟨name, ·, false⟩)).or ((brokenEnd? line).map (⟨name, ·, true⟩))

def headsFrom (left : Nat) : List Text → List Head
  | [] => []
  | start :: later =>
    if left < start.length then headsFrom left later
    else
      match head? start with
      | some head => head :: headsFrom head.after.length later
      | none => headsFrom left later

def heads (code : Text) : List Head := headsFrom code.length (lineStarts code)

theorem afterReturn?_eq_some_iff {text : Text} :
    afterReturn? text = some rest ↔ text = '\r' :: rest := by
  unfold afterReturn?
  split
  next => simp
  next other => simpa using other rest

theorem headEnd?_of_brokenEnd? (broken : brokenEnd? line = some rest) : headEnd? line = none := by
  rw [brokenEnd?, Option.bind_eq_some_iff] at broken
  obtain ⟨after, closed, returns⟩ := broken
  rw [headEnd?, closed, Option.bind_some, afterHeadEnd?, afterReturn?_eq_some_iff.mp returns]
  rfl

theorem headEnd?_dropReturns (h : ReturnsEndLines line) :
    headEnd? (dropReturns line) = ((headEnd? line).or (brokenEnd? line)).map dropReturns := by
  unfold headEnd? brokenEnd?
  rw [afterParameters?_dropReturns h]
  cases closed : afterParameters? line with
  | none => rfl
  | some after =>
    exact afterHeadEnd?_dropReturns (h.part (afterParameters?_suffix closed).isInfix)

theorem read?_eq_head? (line : Text) :
    read? line = (head? line).bind fun head =>
      if head.broken then none else some (head.name, head.after) := by
  rw [read?_eq, head?]
  cases headName? line with
  | none => rfl
  | some name =>
    cases whole : headEnd? line with
    | some after => rfl
    | none => cases brokenEnd? line <;> rfl

theorem read?_dropReturns (h : ReturnsEndLines line) :
    read? (dropReturns line) =
      (head? line).map fun head => (head.name, dropReturns head.after) := by
  rw [read?_eq, headName?_dropReturns h, headEnd?_dropReturns h, head?]
  cases headName? line with
  | none => rfl
  | some name => cases headEnd? line <;> cases brokenEnd? line <;> rfl

theorem headEnd?_of_inside (broken : brokenEnd? line = some rest)
    (follows : FollowsBreak start line) (inside : rest.length < start.length) : headEnd? start = none := by
  have ends := headEnd?_of_brokenEnd? broken
  rw [brokenEnd?, Option.bind_eq_some_iff] at broken
  obtain ⟨after, closed, returns⟩ := broken
  obtain ⟨read, split, single⟩ := exists_afterConst after
  obtain ⟨before, whole⟩ := follows
  rw [afterReturn?_eq_some_iff.mp returns] at split
  have parameters := List.takeWhile_append_dropWhile (p := isParameterChar) (l := line)
  rw [afterParameters?_eq_some_iff.mp closed, split, whole] at parameters
  have goes := List.all_takeWhile (p := isParameterChar) (l := line)
  rw [whole] at goes
  rcases List.append_eq_append_iff.mp parameters with ⟨more, early, late⟩ | ⟨more, early, late⟩
  · -- No line ends between the parameters and the carriage return.
    rw [← List.cons_append] at late
    rcases List.append_eq_append_iff.mp late with ⟨few, _, same⟩ | ⟨few, same, starts⟩
    · have lengths := congrArg List.length same
      simp only [List.length_cons, List.length_append] at lengths
      omega
    · cases few with
      | nil => simp at starts
      | cons c few =>
        rw [List.cons_append, List.cons.injEq] at starts
        have among : '\n' ∈ ')' :: read := by simp [same, ← starts.1]
        simp [single] at among
  · cases more with
    | nil => simp at late
    | cons c more =>
      rw [List.cons_append, List.cons.injEq] at late
      have reads : ReadsOver line start := by
        refine ⟨before ++ ['\n'], by simp [whole], ?_⟩
        rw [early, List.all_append, Bool.and_eq_true] at goes
        rw [List.all_append, goes.1]
        rfl
      rw [← reads.headEnd?_eq, ends]

theorem head?_eq_some {head : Head} (found : head? line = some head) :
    headEnd? line = some head.after ∧ head.broken = false ∨
      brokenEnd? line = some head.after ∧ head.broken = true := by
  rw [head?, Option.bind_eq_some_iff] at found
  obtain ⟨name, _, found⟩ := found
  rw [Option.or_eq_some_iff, Option.map_eq_some_iff, Option.map_eq_some_iff] at found
  rcases found with ⟨after, ends, rfl⟩ | ⟨_, after, ends, rfl⟩
  · exact .inl ⟨ends, rfl⟩
  · exact .inr ⟨ends, rfl⟩

theorem brokenEnd?_suffix (broken : brokenEnd? line = some rest) : rest <:+ line := by
  rw [brokenEnd?, Option.bind_eq_some_iff] at broken
  obtain ⟨after, closed, returns⟩ := broken
  have inner := afterConst_suffix after
  rw [afterReturn?_eq_some_iff.mp returns] at inner
  exact (List.suffix_cons _ rest).trans (inner.trans (afterParameters?_suffix closed))

theorem head?_suffix {head : Head} (found : head? line = some head) : head.after <:+ line := by
  rcases head?_eq_some found with ⟨ends, _⟩ | ⟨broken, _⟩
  · exact headEnd?_suffix ends
  · exact brokenEnd?_suffix broken

section Scans

variable {name : Text} {head : Head} {later : List Text} {left : Nat}

theorem namesFrom_past (past : left < start.length) :
    namesFrom left (start :: later) = namesFrom left later := by
  rw [namesFrom, if_pos past]

theorem namesFrom_none (missing : read? start = none) :
    namesFrom left (start :: later) = namesFrom left later := by
  rw [namesFrom, missing]
  exact ite_self _

theorem namesFrom_some (near : start.length ≤ left) (found : read? start = some (name, rest)) :
    namesFrom left (start :: later) = name :: namesFrom rest.length later := by
  rw [namesFrom, if_neg (by omega), found]

theorem headsFrom_past (past : left < start.length) :
    headsFrom left (start :: later) = headsFrom left later := by
  rw [headsFrom, if_pos past]

theorem headsFrom_none (missing : head? start = none) :
    headsFrom left (start :: later) = headsFrom left later := by
  rw [headsFrom, missing]
  exact ite_self _

theorem headsFrom_some (near : start.length ≤ left) (found : head? start = some head) :
    headsFrom left (start :: later) = head :: headsFrom head.after.length later := by
  rw [headsFrom, if_neg (by omega), found]

theorem read?_inside_broken (found : head? line = some head) (broken : head.broken = true)
    (follows : FollowsBreak start line) (inside : head.after.length < start.length) :
    read? start = none := by
  rcases head?_eq_some found with ⟨_, whole⟩ | ⟨ends, _⟩
  · simp [broken] at whole
  · rw [read?_eq, headEnd?_of_inside ends follows inside]
    cases headName? start <;> rfl

end Scans

theorem namesFrom_eq_unbroken {starts : List Text}
    (ordered : starts.Pairwise fun start later => FollowsBreak later start) {left inner : Nat}
    (within : inner ≤ left)
    (quiet : ∀ start ∈ starts, inner < start.length → start.length ≤ left → read? start = none) :
    namesFrom left starts = ((headsFrom inner starts).filter (!·.broken)).map (·.name) := by
  induction starts generalizing left inner with
  | nil => rfl
  | cons start later ih =>
    rw [List.pairwise_cons] at ordered
    have laterQuiet : ∀ start ∈ later, inner < start.length → start.length ≤ left →
        read? start = none := fun start inside => quiet start (by simp [inside])
    have same := read?_eq_head? start
    by_cases past : left < start.length
    · rw [namesFrom_past past, headsFrom_past (by omega)]
      exact ih ordered.2 within laterQuiet
    · by_cases covered : inner < start.length
      · -- The line starts inside of a broken head.
        have missing := quiet start (by simp) covered (by omega)
        rw [namesFrom_none missing, headsFrom_past covered]
        exact ih ordered.2 within laterQuiet
      · cases found : head? start with
        | none =>
          rw [found] at same
          rw [namesFrom_none same, headsFrom_none found]
          exact ih ordered.2 within laterQuiet
        | some head =>
          have shorter := (head?_suffix found).length_le
          have near : start.length ≤ left := by omega
          rw [headsFrom_some (by omega) found]
          cases broken : head.broken with
          | false =>
            have read : read? start = some (head.name, head.after) := by
              simp [same, found, broken]
            have rest := ih ordered.2 (Nat.le_refl head.after.length) (by omega)
            simp [namesFrom_some near read, rest, broken]
          | true =>
            have read : read? start = none := by simp [same, found, broken]
            have rest : namesFrom left later =
                ((headsFrom head.after.length later).filter (!·.broken)).map (·.name) :=
              ih ordered.2 (by omega) fun other inside below _ =>
                read?_inside_broken found broken (ordered.1 other inside) below
            simp [namesFrom_none read, rest, broken]

theorem names_eq_unbroken (code : Text) :
    names code = ((heads code).filter (!·.broken)).map (·.name) :=
  namesFrom_eq_unbroken (lineStarts_pairwise code) (Nat.le_refl _) (by omega)

theorem head?_return (text : Text) : head? ('\r' :: text) = none := by
  have missing : afterTypePart? ('\r' :: text) = none := by
    simp [afterTypePart?, afterTypeWord?, show isTypeStart '\r' = false from rfl]
  have gap : ('\r' :: text).dropWhile isGap = '\r' :: text := rfl
  rw [head?, headName?, gap, namePlaces_of_none missing]
  rfl

theorem dropReturns_length_lt_iff {code after : Text} (first : start <:+ code)
    (second : after <:+ code) : head? start = none ∨
      ((dropReturns after).length < (dropReturns start).length ↔ after.length < start.length) := by
  rcases List.suffix_or_suffix_of_suffix first second with inner | inner
  · right
    have shorter := inner.length_le
    have kept := (inner.sublist.filter (· != '\r')).length_le
    unfold dropReturns
    omega
  · obtain ⟨read, rfl⟩ := inner
    cases read with
    | nil => simp
    | cons c read =>
      by_cases dropped : c = '\r'
      · left
        subst dropped
        exact head?_return (read ++ after)
      · right
        rw [List.cons_append, dropReturns_cons dropped, dropReturns_append]
        simp only [List.length_cons, List.length_append]
        omega

theorem namesFrom_dropReturns {code : Text} (h : ReturnsEndLines code) {starts : List Text}
    (parts : ∀ start ∈ starts, start <:+ code) {left whole : Nat}
    (same : ∀ start ∈ starts, head? start = none ∨
      (left < (dropReturns start).length ↔ whole < start.length)) :
    namesFrom left (starts.map dropReturns) = (headsFrom whole starts).map (·.name) := by
  induction starts generalizing left whole with
  | nil => rfl
  | cons start later ih =>
    have laterParts : ∀ start ∈ later, start <:+ code :=
      fun start inside => parts start (by simp [inside])
    have laterSame : ∀ start ∈ later, head? start = none ∨
        (left < (dropReturns start).length ↔ whole < start.length) :=
      fun start inside => same start (by simp [inside])
    have here := parts start (by simp)
    have read := read?_dropReturns (h.part here.isInfix)
    rw [List.map_cons]
    cases found : head? start with
    | none =>
      rw [found] at read
      rw [namesFrom_none read, headsFrom_none found]
      exact ih laterParts laterSame
    | some head =>
      rw [found] at read
      have agree := (same start (by simp)).resolve_left (by simp [found])
      by_cases past : whole < start.length
      · rw [namesFrom_past (agree.mpr past), headsFrom_past past]
        exact ih laterParts laterSame
      · have after := (head?_suffix found).trans here
        have rest := ih laterParts fun start inside =>
          dropReturns_length_lt_iff (laterParts start inside) after
        rw [namesFrom_some (by omega) read, headsFrom_some (by omega) found, rest]
        rfl

theorem names_dropReturns {code : Text} (h : ReturnsEndLines code) :
    names (dropReturns code) = (heads code).map (·.name) := by
  unfold names
  rw [lineStarts_dropReturns]
  exact namesFrom_dropReturns h (fun _ => lineStarts_suffix) fun start inside =>
    dropReturns_length_lt_iff (lineStarts_suffix inside) (List.suffix_refl code)

end SnippetGauge.TypedHead
