import SnippetGauge.Proofs.LineMatches

set_option autoImplicit false

namespace SnippetGauge

open Text

namespace Pattern

variable {α : Type} {next : Text → Option α}

theorem readsThrough_matched : ReadsThrough matched where
  blind _ := rfl
  drops _ _ _ missing := by simp [matched] at missing

theorem ReadsThrough.char (through : ReadsThrough next) {c : Char} (filled : isBlank c = false) :
    ReadsThrough ((char c).andThen next) :=
  through.blind.one (rejectsBlanks_beq filled)

theorem readsThrough_spaced (blind : BlindToGaps next) {word : String} {later : List String}
    (gapless : ∀ part ∈ word :: later, isGapless part.toList = true) :
    ReadsThrough ((spaced (word :: later)).andThen next) := by
  induction later using List.reverseRecOn generalizing next with
  | nil => exact blind.literal (gapless word (by simp))
  | append_singleton later last ih =>
    have solid : isGapless last.toList = true := gapless last (by simp)
    have split : spaced (word :: (later ++ [last])) =
        seq (spaced (word :: later)) (seq someBlanks (literal last.toList)) := by
      simp [spaced]
    rw [split, andThen_seq, andThen_seq]
    have gap := (blind.literal solid).someBlanks (andThen_literal_nil solid)
    refine ih gap fun part inside => gapless part ?_
    rw [← List.cons_append]
    exact List.mem_append_left _ inside

theorem readsThrough_argumentList (through : ReadsThrough next) :
    ReadsThrough (argumentList.andThen next) := by
  have brackets : ReadsThrough ((all [char '[', blanks, char ']']).andThen next) := by
    simp only [all, List.foldr_cons, List.foldr_nil, andThen_seq, andThen_nothing]
    exact (through.char rfl).blanks.char rfl
  have name := (through.optional brackets).blanks.blind.literal
    (show isGapless "argv".toList = true by decide)
  have stars := (name.blanks.optional (name.blanks.char (c := '*') rfl)).blanks.char (c := '*') rfl
  have pointer := stars.blanks.blind.literal (show isGapless "char".toList = true by decide)
  have comma := pointer.blanks.char (c := ',') rfl
  have count : ReadsThrough ((spaced ["int", "argc"]).andThen _) :=
    readsThrough_spaced comma.blanks.blind (by decide)
  rw [argumentList]
  simp only [all, List.foldr_cons, List.foldr_nil, andThen_seq, andThen_nothing] at count ⊢
  exact count

theorem blind_cppMain : BlindToGaps (cppMain.andThen matched) := by
  have closing := (readsThrough_matched.char (c := ')') rfl).blanks
  have voidWord := closing.blind.literal (show isGapless "void".toList = true by decide)
  have arguments := voidWord.alt (readsThrough_argumentList closing)
  have opening := (closing.optional arguments).blanks.char (c := '(') rfl
  have head : ReadsThrough ((spaced ["int", "main"]).andThen _) :=
    readsThrough_spaced opening.blanks.blind (by decide)
  rw [cppMain]
  simp only [all, List.foldr_cons, List.foldr_nil, andThen_seq, andThen_nothing]
  exact head.blind

theorem blind_publicClass : BlindToGaps (publicClass.andThen matched) := by
  have classWord := readsThrough_matched.blind.literal
    (show isGapless "class".toList = true by decide)
  have staticWord := (classWord.someBlanks rfl).literal
    (show isGapless "static".toList = true by decide)
  rw [← andThen_seq] at staticWord
  have publicWord := ((classWord.optional staticWord).someBlanks rfl).literal
    (show isGapless "public".toList = true by decide)
  rw [publicClass]
  simp only [all, List.foldr_cons, List.foldr_nil, andThen_seq, andThen_nothing] at publicWord ⊢
  exact publicWord.blind

end Pattern

end SnippetGauge
