import SnippetGauge.Proofs.BlockComments

set_option autoImplicit false

namespace SnippetGauge

open Text

/-- Code that no comment begins in, nor at its end together with what follows. -/
structure IsCommentFree (code : Text) : Prop where
  noLine : ¬ ['/', '/'] <:+: code
  noBlock : ¬ ['/', '*'] <:+: code
  last : code.getLast? ≠ some '/'

section

variable {code comment later : Text} {c : Char}

theorem IsCommentFree.tail (free : IsCommentFree (c :: code)) : IsCommentFree code where
  noLine inner := free.noLine (List.infix_cons inner)
  noBlock inner := free.noBlock (List.infix_cons inner)
  last found := by
    cases code with
    | nil => simp at found
    | cons d code => exact free.last (by rwa [List.getLast?_cons_cons])

theorem IsCommentFree.no_mark (free : IsCommentFree (c :: code)) {second : Char}
    (mark : second = '/' ∨ second = '*') (more : Text) :
    ∀ rest, c = '/' → code ++ more = second :: rest → False := by
  rintro rest rfl found
  cases code with
  | nil => exact free.last rfl
  | cons d code =>
    have starts : ['/', second] <:+: '/' :: d :: code := by
      rw [(List.cons.inj found).1]
      exact ⟨[], code, rfl⟩
    rcases mark with rfl | rfl
    · exact free.noLine starts
    · exact free.noBlock starts

theorem eraseBlocksFrom_append_of_free (free : IsCommentFree code) (more : Text) :
    eraseBlocksFrom false (code ++ more) = code ++ eraseBlocksFrom false more := by
  induction code with
  | nil => rfl
  | cons c code ih =>
    rw [List.cons_append, eraseBlocksFrom, ih free.tail, List.cons_append]
    exact free.no_mark (.inr rfl) more

theorem mapLines_beforeSlashes_cons {rest : Text}
    (other : ∀ tail, c = '/' → rest = '/' :: tail → False) :
    mapLines beforeSlashes (c :: rest) = c :: mapLines beforeSlashes rest := by
  by_cases same : c = '\n'
  · subst same
    rw [mapLines_break]
    rfl
  · obtain ⟨line, later, found⟩ := exists_lines_eq rest
    have kept : beforeSlashes (c :: line) = c :: beforeSlashes line := by
      rw [beforeSlashes]
      rintro tail slash rfl
      obtain ⟨more, whole⟩ := prefix_of_lines_eq found
      exact other (tail ++ more) slash whole.symm
    unfold mapLines
    rw [lines_cons_of_ne same found, found, List.map_cons, kept, unlines_cons_cons, List.map_cons]

theorem mapLines_beforeSlashes_append_of_free (free : IsCommentFree code) (more : Text) :
    mapLines beforeSlashes (code ++ more) = code ++ mapLines beforeSlashes more := by
  induction code with
  | nil => rfl
  | cons c code ih =>
    rw [List.cons_append, mapLines_beforeSlashes_cons, ih free.tail, List.cons_append]
    exact free.no_mark (.inl rfl) more

theorem stripSlashComments_append_of_free (free : IsCommentFree code) (comment later : Text) :
    stripSlashComments (code ++ '/' :: '/' :: comment ++ '\n' :: later) =
      code ++ mapLines beforeSlashes
        ('/' :: eraseBlocksFrom false ('/' :: comment ++ '\n' :: later)) := by
  unfold stripSlashComments eraseBlocks
  rw [List.append_assoc, eraseBlocksFrom_append_of_free free,
    mapLines_beforeSlashes_append_of_free free, List.cons_append, eraseBlocksFrom]
  simp

/-- The second slash begins a block, and behind its close no other slash stands. -/
def ShowsComment (comment later : Text) : Prop :=
  ∃ rest, comment = '*' :: rest ∧ closesBlock (rest ++ '\n' :: later) = true ∧
    (eraseBlocksFrom true (rest ++ '\n' :: later)).head? ≠ some '/'

/-- A block begins in the comment and ends below, which changes what is left there. -/
def HidesLater (comment later : Text) : Prop :=
  carriesBlock false ('/' :: comment) later = true ∧
    mapLines beforeSlashes (eraseBlocksFrom true later) ≠ stripSlashComments later

theorem hidesLater_iff (comment later : Text) :
    HidesLater comment later ↔
      mapLines beforeSlashes (eraseBlocksFrom (carriesBlock false ('/' :: comment) later) later) ≠
        stripSlashComments later := by
  unfold HidesLater
  cases carriesBlock false ('/' :: comment) later <;> simp [stripSlashComments, eraseBlocks]

theorem head?_eraseBlocksFrom_iff (comment later : Text) :
    (eraseBlocksFrom false ('/' :: comment ++ '\n' :: later)).head? = some '/' ↔
      ¬ ShowsComment comment later := by
  by_cases opens : ∃ rest, comment = '*' :: rest
  · obtain ⟨rest, rfl⟩ := opens
    have shows_iff : ShowsComment ('*' :: rest) later ↔
        closesBlock (rest ++ '\n' :: later) = true ∧
          (eraseBlocksFrom true (rest ++ '\n' :: later)).head? ≠ some '/' := by
      simp [ShowsComment]
    rw [shows_iff, List.cons_append, List.cons_append, eraseBlocksFrom]
    split <;> simp_all
  · have free : ¬ ShowsComment comment later := by
      rintro ⟨rest, starts, _⟩
      exact opens ⟨rest, starts⟩
    have kept : eraseBlocksFrom false ('/' :: comment ++ '\n' :: later) =
        '/' :: eraseBlocksFrom false (comment ++ '\n' :: later) := by
      rw [List.cons_append, eraseBlocksFrom]
      apply (startsApart_break later).no_mark (.inr rfl)
      exact fun rest _ starts => opens ⟨rest, starts⟩
    rw [kept]
    simp [free]

theorem beforeSlashes_eq_nil_iff {rest : Text} :
    beforeSlashes ('/' :: rest) = [] ↔ rest.head? = some '/' := by
  unfold beforeSlashes
  split
  next same => simp at same
  next same => simp [(List.cons.inj same).2]
  next other same =>
    obtain ⟨rfl, rfl⟩ := List.cons.inj same
    cases rest with
    | nil => simp
    | cons d rest =>
      have ne : d ≠ '/' := by
        rintro rfl
        exact other rest rfl rfl
      simp [ne]

theorem append_break_eq_iff {kept rest : Text} (single : '\n' ∉ kept) :
    kept ++ '\n' :: rest = '\n' :: later ↔ kept = [] ∧ rest = later := by
  cases kept with
  | nil => simp
  | cons d kept =>
    have ne : d ≠ '\n' := by
      rintro rfl
      simp at single
    simp [ne]

theorem stripSlashComments_lineComment_iff (free : IsCommentFree code) (single : '\n' ∉ comment)
    (later : Text) :
    stripSlashComments (code ++ '/' :: '/' :: comment ++ '\n' :: later) =
        code ++ '\n' :: stripSlashComments later ↔
      ¬ ShowsComment comment later ∧ ¬ HidesLater comment later := by
  let kept := keptOfLine false ('/' :: comment) later
  have erased : eraseBlocksFrom false ('/' :: comment ++ '\n' :: later) =
      kept ++ '\n' :: eraseBlocksFrom (carriesBlock false ('/' :: comment) later) later :=
    eraseBlocksFrom_line (by simp)
  have one : '\n' ∉ kept := break_notMem_keptOfLine (by simp [single]) later
  have starts : kept.head? = some '/' ↔ ¬ ShowsComment comment later := by
    rw [← head?_eraseBlocksFrom_iff, erased]
    cases kept <;> simp
  have removed : '\n' ∉ beforeSlashes ('/' :: kept) := by
    intro found
    simpa [one] using (beforeSlashes_sublist _).subset found
  rw [stripSlashComments_append_of_free free, erased, List.append_cancel_left_eq,
    ← List.cons_append, mapLines_append_break _ (by simp [one]), append_break_eq_iff removed,
    beforeSlashes_eq_nil_iff, starts, hidesLater_iff, not_not, stripSlashComments]

end

def assignment : Text := "x = 1; ".toList

def openingComment : Text := " see /*".toList

def loopAndClose : Text := "for (;;) f();\n// */".toList

theorem assignment_free : IsCommentFree assignment where
  noLine := by decide
  noBlock := by decide
  last := by decide

theorem stripSlashComments_openingComment :
    stripSlashComments (assignment ++ '/' :: '/' :: openingComment ++ '\n' :: loopAndClose) ≠
      assignment ++ '\n' :: stripSlashComments loopAndClose := by
  decide

theorem hidesLater_openingComment :
    IsCommentFree assignment ∧ '\n' ∉ openingComment ∧ HidesLater openingComment loopAndClose := by
  have single : '\n' ∉ openingComment := by decide
  have same := stripSlashComments_lineComment_iff assignment_free single loopAndClose
  have starts : ¬ ShowsComment openingComment loopAndClose := by
    rintro ⟨rest, starts, _⟩
    have first : openingComment.head? ≠ some '*' := by decide
    exact first (congrArg List.head? starts)
  refine ⟨assignment_free, single, ?_⟩
  by_contra keeps
  exact stripSlashComments_openingComment (same.mpr ⟨starts, keeps⟩)

theorem not_removesLineComments :
    ¬ ∀ code comment later : Text, IsCommentFree code → '\n' ∉ comment →
      stripSlashComments (code ++ '/' :: '/' :: comment ++ '\n' :: later) =
        code ++ '\n' :: stripSlashComments later := by
  intro removes
  exact stripSlashComments_openingComment
    (removes assignment openingComment loopAndClose assignment_free (by decide))

example : ShowsComment "* note */ x".toList [] := ⟨" note */ x".toList, by decide⟩

end SnippetGauge
