import Mathlib.Data.List.DropRight
import SnippetGauge.Proofs.BlockComments
import SnippetGauge.Proofs.TokenLines

set_option autoImplicit false

namespace SnippetGauge

open Text

theorem trim_eq_self {text : Text} (filled : ∀ c ∈ text, isBlank c = false) :
    trim text = text := by
  have front : text.dropWhile isBlank = text :=
    List.dropWhile_eq_self_iff.mpr fun _ => by simp [filled]
  have back : text.rdropWhile isBlank = text :=
    List.rdropWhile_eq_self_iff.mpr fun _ => by simp [filled]
  rw [trim, trimStart, front]
  exact back

structure Margins where
  lead : Char → Bool
  trail : Char → Bool
  blankLead : ∀ c, lead c = true → isBlank c = true
  blankTrail : ∀ c, trail c = true → isBlank c = true

namespace Margins

def wide : Margins := ⟨isBlank, isBlank, fun _ => id, fun _ => id⟩

variable (margins : Margins)

def body (line : Text) : Text := (line.dropWhile margins.lead).rdropWhile margins.trail

theorem body_wide : wide.body = trim := funext fun _ => rfl

def SameBetween (first second : Text) : Prop :=
  (lines first).map margins.body = (lines second).map margins.body

@[elab_as_elim]
theorem induct_bodies {margins : Margins}
    {motive : (parts others : List Text) → parts.map margins.body = others.map margins.body → Prop}
    (nil : motive [] [] rfl)
    (cons : ∀ line other later below (here : margins.body line = margins.body other)
      (rest : later.map margins.body = below.map margins.body), motive later below rest →
        motive (line :: later) (other :: below) (congrArg₂ List.cons here rest))
    (parts others : List Text) (same : parts.map margins.body = others.map margins.body) :
    motive parts others same := by
  induction parts generalizing others with
  | nil =>
    obtain rfl : others = [] := by simpa using same.symm
    exact nil
  | cons line later ih =>
    cases others with
    | nil => simp at same
    | cons other below =>
      obtain ⟨here, rest⟩ := List.cons.inj same
      exact cons line other later below here rest (ih below rest)

theorem exists_margins (line : Text) :
    ∃ before after, (∀ c ∈ before, margins.lead c = true) ∧ (∀ c ∈ after, margins.trail c = true) ∧
      line = before ++ (margins.body line ++ after) := by
  let rest := line.dropWhile margins.lead
  refine ⟨line.takeWhile margins.lead, rest.rtakeWhile margins.trail, ?_, ?_, ?_⟩
  next => exact fun c => List.mem_takeWhile_imp
  next => exact fun c => List.mem_rtakeWhile_imp
  next =>
    rw [body, List.rdropWhile_append_rtakeWhile]
    exact List.takeWhile_append_dropWhile.symm

structure IgnoredBy {α : Type} (read : Text → α) : Prop where
  front : ∀ c line, margins.lead c = true → read (c :: line) = read line
  back : ∀ c line, margins.trail c = true → read (line ++ [c]) = read line

namespace IgnoredBy

variable {margins : Margins} {α : Type} {read : Text → α}

theorem read_append_left (ignored : margins.IgnoredBy read) {before : Text}
    (leads : ∀ c ∈ before, margins.lead c = true) (text : Text) :
    read (before ++ text) = read text := by
  induction before with
  | nil => rfl
  | cons c before ih =>
    rw [List.cons_append, ignored.front c _ (leads c (by simp))]
    exact ih fun d inside => leads d (by simp [inside])

theorem read_append_right (ignored : margins.IgnoredBy read) {after : Text}
    (trails : ∀ c ∈ after, margins.trail c = true) (text : Text) :
    read (text ++ after) = read text := by
  induction after generalizing text with
  | nil => rw [List.append_nil]
  | cons c after ih =>
    have later := ih (fun d inside => trails d (by simp [inside])) (text ++ [c])
    rw [List.append_assoc, List.singleton_append] at later
    rw [later, ignored.back c text (trails c (by simp))]

theorem read_body (ignored : margins.IgnoredBy read) (line : Text) :
    read (margins.body line) = read line := by
  obtain ⟨before, after, leads, trails, whole⟩ := margins.exists_margins line
  conv_rhs => rw [whole, ignored.read_append_left leads, ignored.read_append_right trails]

theorem congr (ignored : margins.IgnoredBy read) {line other : Text}
    (same : margins.body line = margins.body other) : read line = read other := by
  rw [← ignored.read_body line, same, ignored.read_body]

theorem map_congr (ignored : margins.IgnoredBy read) {parts others : List Text}
    (same : parts.map margins.body = others.map margins.body) :
    parts.map read = others.map read := by
  have bodies (parts : List Text) : parts.map read = (parts.map margins.body).map read := by
    rw [List.map_map]
    exact List.map_congr_left fun line _ => (ignored.read_body line).symm
  rw [bodies parts, same, ← bodies others]

theorem any_congr {read : Text → Bool} (ignored : margins.IgnoredBy read)
    {parts others : List Text} (same : parts.map margins.body = others.map margins.body) :
    parts.any read = others.any read := by
  simpa only [List.any_map, Function.id_comp] using congrArg (·.any id) (ignored.map_congr same)

end IgnoredBy

theorem body_cons {c : Char} (lead : margins.lead c = true) (line : Text) :
    margins.body (c :: line) = margins.body line := by
  rw [body, List.dropWhile_cons_of_pos lead, body]

theorem body_concat {c : Char} (trail : margins.trail c = true) (line : Text) :
    margins.body (line ++ [c]) = margins.body line := by
  unfold body
  rw [List.dropWhile_append]
  split
  next empty =>
    rw [List.isEmpty_iff.mp empty]
    by_cases lead : margins.lead c = true <;> simp [lead, trail, List.rdropWhile_singleton]
  next => exact List.rdropWhile_concat_pos _ _ _ trail

theorem ignoredBy_body : margins.IgnoredBy margins.body where
  front _ line lead := margins.body_cons lead line
  back _ line trail := margins.body_concat trail line

theorem IgnoredBy.of_wide {margins : Margins} {α : Type} {read : Text → α}
    (ignored : wide.IgnoredBy read) : margins.IgnoredBy read where
  front c line lead := ignored.front c line (margins.blankLead c lead)
  back c line trail := ignored.back c line (margins.blankTrail c trail)

end Margins

/-- White space at the ends of a line is kept or dropped, and makes no other difference. -/
structure SparesBlanks (change : Text → Text) : Prop where
  front : ∀ c line, isBlank c = true →
    change (c :: line) = change line ∨ change (c :: line) = c :: change line
  back : ∀ c line, isBlank c = true →
    change (line ++ [c]) = change line ∨ change (line ++ [c]) = change line ++ [c]

theorem SparesBlanks.ignoredBy {change : Text → Text} (spares : SparesBlanks change)
    (margins : Margins) : margins.IgnoredBy fun line => margins.body (change line) where
  front c line lead := by
    rcases spares.front c line (margins.blankLead c lead) with same | kept
    next => rw [same]
    next => rw [kept, margins.body_cons lead]
  back c line trail := by
    rcases spares.back c line (margins.blankTrail c trail) with same | kept
    next => rw [same]
    next => rw [kept, margins.body_concat trail]

theorem SparesBlanks.comp {change first : Text → Text} (spares : SparesBlanks change)
    (sparesFirst : SparesBlanks first) : SparesBlanks fun line => change (first line) where
  front c line blank := by
    rcases sparesFirst.front c line blank with same | kept
    next => exact .inl (congrArg change same)
    next =>
      simp only [kept]
      exact spares.front c _ blank
  back c line blank := by
    rcases sparesFirst.back c line blank with same | kept
    next => exact .inl (congrArg change same)
    next =>
      simp only [kept]
      exact spares.back c _ blank

section

variable {change : Text → Text} {c : Char}

theorem mapLines_cons_of_isBlank (spares : SparesBlanks change) (none : change [] = [])
    (blank : isBlank c = true) (text : Text) :
    mapLines change (c :: text) = mapLines change text ∨
      mapLines change (c :: text) = c :: mapLines change text := by
  by_cases breaks : c = '\n'
  next =>
    subst breaks
    exact .inr (by rw [mapLines_break, none, List.nil_append])
  next =>
    obtain ⟨line, later, found⟩ := exists_lines_eq text
    have whole := lines_cons_of_ne breaks found
    unfold mapLines
    rw [whole, found, List.map_cons, List.map_cons]
    rcases spares.front c line blank with same | kept
    next => exact .inl (by rw [same])
    next => exact .inr (by rw [kept, unlines_cons_cons])

theorem mapLines_concat_of_isBlank (spares : SparesBlanks change) (none : change [] = [])
    (blank : isBlank c = true) (text : Text) :
    mapLines change (text ++ [c]) = mapLines change text ∨
      mapLines change (text ++ [c]) = mapLines change text ++ [c] := by
  induction text using induct_lines with
  | last line single =>
    by_cases breaks : c = '\n'
    next =>
      subst breaks
      exact .inr (by rw [mapLines_append, mapLines_of_single change List.not_mem_nil, none])
    next =>
      have longer : '\n' ∉ line ++ [c] := by simp [single, Ne.symm breaks]
      rw [mapLines_of_single change longer, mapLines_of_single change single]
      exact spares.back c line blank
  | above line rest single ih =>
    rw [List.append_assoc, List.cons_append, mapLines_append_break change single,
      mapLines_append_break change single]
    rcases ih with same | kept
    next => exact .inl (by rw [same])
    next => exact .inr (by rw [kept, List.append_assoc, List.cons_append])

theorem SparesBlanks.mapLines (spares : SparesBlanks change) (none : change [] = []) :
    SparesBlanks (mapLines change) where
  front _ text blank := mapLines_cons_of_isBlank spares none blank text
  back _ text blank := mapLines_concat_of_isBlank spares none blank text

end

section

variable {c : Char} (blank : isBlank c = true) (line : Text) (inside : Bool)

include blank

theorem ne_of_isBlank {d : Char} (filled : isBlank d = false) : c ≠ d := by
  rintro rfl
  simp [filled] at blank

theorem startsApart_of_isBlank (rest : Text) : StartsApart (c :: rest) :=
  .cons (ne_of_isBlank blank rfl) (ne_of_isBlank blank rfl) rest

theorem closesBlock_cons_of_isBlank : closesBlock (c :: line) = closesBlock line :=
  closesBlock_cons_of_ne (ne_of_isBlank blank rfl) line

theorem endsInside_cons_of_isBlank : endsInside inside (c :: line) = endsInside inside line := by
  cases inside with
  | false =>
    rw [endsInside]
    exact fun _ same => absurd same (ne_of_isBlank blank rfl)
  | true =>
    rw [endsInside]
    exact fun _ same => absurd same (ne_of_isBlank blank rfl)

theorem cons_of_isBlank_of_steps {pass : Bool → Text → Text}
    (within : c ≠ '*' → pass true (c :: line) = keptInBlock c ++ pass true line)
    (outside : c ≠ '/' → pass false (c :: line) = c :: pass false line) :
    pass inside (c :: line) = pass inside line ∨
      pass inside (c :: line) = c :: pass inside line := by
  cases inside with
  | false => exact .inr (outside (ne_of_isBlank blank rfl))
  | true =>
    rw [within (ne_of_isBlank blank rfl), keptInBlock]
    split
    next => exact .inr rfl
    next => exact .inl rfl

theorem outsideBlocks_cons_of_isBlank :
    outsideBlocks inside (c :: line) = outsideBlocks inside line ∨
      outsideBlocks inside (c :: line) = c :: outsideBlocks inside line := by
  refine cons_of_isBlank_of_steps blank line inside (fun star => ?_) (fun slash => ?_)
  next => exact outsideBlocks_cons_inside fun _ same => absurd same star
  next =>
    rw [outsideBlocks]
    exact fun _ same => absurd same slash

theorem eraseBlocksFrom_cons_of_isBlank :
    eraseBlocksFrom inside (c :: line) = eraseBlocksFrom inside line ∨
      eraseBlocksFrom inside (c :: line) = c :: eraseBlocksFrom inside line := by
  refine cons_of_isBlank_of_steps blank line inside (fun star => ?_) (fun slash => ?_)
  next => exact eraseBlocksFrom_cons_inside fun _ same => absurd same star
  next =>
    rw [eraseBlocksFrom]
    exact fun _ same => absurd same slash

theorem beforeSlashes_cons_of_isBlank : beforeSlashes (c :: line) = c :: beforeSlashes line := by
  rw [beforeSlashes]
  exact fun _ same => absurd same (ne_of_isBlank blank rfl)

theorem closesBlock_concat_of_isBlank : closesBlock (line ++ [c]) = closesBlock line := by
  rw [closesBlock_append (startsApart_of_isBlank blank []), closesBlock_cons_of_isBlank blank []]
  exact Bool.or_false _

theorem outsideBlocks_concat_of_isBlank :
    outsideBlocks inside (line ++ [c]) = outsideBlocks inside line ∨
      outsideBlocks inside (line ++ [c]) = outsideBlocks inside line ++ [c] := by
  rw [outsideBlocks_append (startsApart_of_isBlank blank [])]
  have alone := outsideBlocks_cons_of_isBlank blank [] (endsInside inside line)
  rcases alone with dropped | kept
  next => exact .inl (by rw [dropped, outsideBlocks, List.append_nil])
  next => exact .inr (by rw [kept, outsideBlocks])

end

theorem eraseBlocksFrom_of_not_closesBlock_inside {text : Text}
    (unclosed : closesBlock text = false) :
    eraseBlocksFrom true text = outsideBlocks true text := by
  fun_induction closesBlock text with
  | case1 => rfl
  | case2 rest => simp at unclosed
  | case3 c rest other ih =>
    rw [eraseBlocksFrom_cons_inside other, outsideBlocks_cons_inside other, ih unclosed]

theorem beforeSlashes_append {more : Text} (apart : more.head? ≠ some '/') (text : Text) :
    beforeSlashes (text ++ more) = beforeSlashes text ∨
      beforeSlashes (text ++ more) = beforeSlashes text ++ beforeSlashes more := by
  fun_induction beforeSlashes text with
  | case1 => exact .inr rfl
  | case2 rest => exact .inl rfl
  | case3 c rest other ih =>
    have later : ∀ tail, c = '/' → rest ++ more = '/' :: tail → False := by
      intro tail slash starts
      cases rest with
      | nil => simp [show more = '/' :: tail from starts] at apart
      | cons d rest => exact other rest slash (by rw [(List.cons.inj starts).1])
    rw [List.cons_append, beforeSlashes]
    · exact ih.imp (congrArg (c :: ·)) (congrArg (c :: ·))
    · exact later

theorem sparesBlanks_outsideBlocks (inside : Bool) : SparesBlanks (outsideBlocks inside) where
  front _ line blank := outsideBlocks_cons_of_isBlank blank line inside
  back _ line blank := outsideBlocks_concat_of_isBlank blank line inside

theorem sparesBlanks_eraseBlocksFrom (inside : Bool) : SparesBlanks (eraseBlocksFrom inside) where
  front _ line blank := eraseBlocksFrom_cons_of_isBlank blank line inside
  back c line blank := by
    by_cases lost : inside = true ∧ closesBlock line = false
    next =>
      -- Within a block that the line does not close, only line feeds are left.
      obtain ⟨rfl, unclosed⟩ := lost
      have still := (closesBlock_concat_of_isBlank blank line).trans unclosed
      rw [eraseBlocksFrom_of_not_closesBlock_inside unclosed,
        eraseBlocksFrom_of_not_closesBlock_inside still]
      exact outsideBlocks_concat_of_isBlank blank line true
    next =>
      have alone : closesBlock [c] = false := closesBlock_cons_of_isBlank blank []
      refine .inr (eraseBlocksFrom_append_of_open (startsApart_of_isBlank blank []) alone ?_)
      intro within
      simpa [within] using lost

theorem sparesBlanks_beforeSlashes : SparesBlanks beforeSlashes where
  front _ line blank := .inr (beforeSlashes_cons_of_isBlank blank line)
  back c line blank := by
    have apart : [c].head? ≠ some '/' := by simpa using ne_of_isBlank blank rfl
    have alone : beforeSlashes [c] = [c] := beforeSlashes_cons_of_isBlank blank []
    simpa [alone] using beforeSlashes_append apart line

theorem sparesBlanks_beforeHash : SparesBlanks beforeHash where
  front c line blank := by
    have other : c ≠ '#' := ne_of_isBlank blank rfl
    simp [beforeHash, other]
  back c line blank := by
    have other : c ≠ '#' := ne_of_isBlank blank rfl
    unfold beforeHash
    rw [List.takeWhile_append]
    split
    next full =>
      have whole := (List.takeWhile_prefix (· != '#')).eq_of_length full
      exact .inr (by simp [whole, other])
    next => exact .inl rfl

theorem wide_ignoredBy_closesBlock : Margins.wide.IgnoredBy closesBlock where
  front _ line blank := closesBlock_cons_of_isBlank blank line
  back _ line blank := closesBlock_concat_of_isBlank blank line

theorem wide_ignoredBy_endsInside (inside : Bool) : Margins.wide.IgnoredBy (endsInside inside) where
  front _ line blank := endsInside_cons_of_isBlank blank line inside
  back c line blank := by
    rw [endsInside_append (startsApart_of_isBlank blank [])]
    exact endsInside_cons_of_isBlank blank [] _

theorem splitPieces_concat_of_isBlank {c : Char} (blank : isBlank c = true) (line : Text) :
    splitPieces (line ++ [c]) = splitPieces line := by
  induction line with
  | nil => simp [splitPieces, blank, consWord]
  | cons d line ih => rw [List.cons_append, splitPieces, splitPieces, ih]

theorem wide_ignoredBy_pieces : Margins.wide.IgnoredBy pieces where
  front c line blank := by
    have white : isBlank c = true := blank
    simp [pieces, splitPieces, white, consWord]
  back c line blank := by rw [pieces, splitPieces_concat_of_isBlank blank, pieces]

theorem closesBlock_append_break (line below : Text) :
    closesBlock (line ++ '\n' :: below) = (closesBlock line || closesBlock below) := by
  rw [closesBlock_append (startsApart_break below), closesBlock_cons_of_ne (by decide)]

theorem closesBlock_unlines (parts : List Text) :
    closesBlock (unlines parts) = parts.any closesBlock := by
  induction parts with
  | nil => rfl
  | cons line later ih =>
    by_cases last : later = []
    next => simp [last, unlines]
    next => rw [unlines_cons line last, closesBlock_append_break, ih, List.any_cons]

/-- What the blocks leave of each line, where the first line starts `inside` of one. -/
def keptLines : (inside : Bool) → List Text → List Text
  | _, [] => []
  | inside, line :: later =>
    keptOfLine inside line (unlines later) ::
      keptLines (carriesBlock inside line (unlines later)) later

theorem lines_eraseBlocksFrom {inside : Bool} {text : Text}
    (entered : inside = true → closesBlock text = true) :
    lines (eraseBlocksFrom inside text) = keptLines inside (lines text) := by
  induction text using induct_lines generalizing inside with
  | last line single =>
    have kept : keptOfLine inside line [] = eraseBlocksFrom inside line := by
      simp [keptOfLine, carriesBlock, closesBlock]
    rw [lines_eq_singleton single, keptLines, keptLines, unlines, kept]
    exact lines_eq_singleton (break_notMem_eraseBlocksFrom single)
  | above line rest single ih =>
    rw [closesBlock_append_break, Bool.or_eq_true] at entered
    have carried : carriesBlock inside line rest = true → closesBlock rest = true :=
      fun carries => (Bool.and_eq_true_iff.mp carries).2
    rw [eraseBlocksFrom_line entered, lines_append_break (break_notMem_keptOfLine single _),
      ih carried, lines_append_break single, keptLines, unlines_lines]

theorem lines_eraseBlocks (source : Text) :
    lines (eraseBlocks source) = keptLines false (lines source) :=
  lines_eraseBlocksFrom (by simp)

namespace Margins

variable {margins : Margins} {first second : Text}

theorem body_keptOfLine {line other below beneath : Text}
    (same : margins.body line = margins.body other)
    (closes : closesBlock below = closesBlock beneath) (inside : Bool) :
    margins.body (keptOfLine inside line below) = margins.body (keptOfLine inside other beneath) ∧
      carriesBlock inside line below = carriesBlock inside other beneath := by
  have carries : carriesBlock inside line below = carriesBlock inside other beneath := by
    rw [carriesBlock, carriesBlock, (wide_ignoredBy_endsInside inside).of_wide.congr same, closes]
  refine ⟨?_, carries⟩
  rw [keptOfLine, keptOfLine, carries]
  split
  next => exact ((sparesBlanks_outsideBlocks inside).ignoredBy margins).congr same
  next => exact ((sparesBlanks_eraseBlocksFrom inside).ignoredBy margins).congr same

theorem map_body_keptLines {parts others : List Text}
    (same : parts.map margins.body = others.map margins.body) (inside : Bool) :
    (keptLines inside parts).map margins.body = (keptLines inside others).map margins.body := by
  have closes {later below : List Text} (rest : later.map margins.body = below.map margins.body) :
      closesBlock (unlines later) = closesBlock (unlines below) := by
    rw [closesBlock_unlines, closesBlock_unlines]
    exact wide_ignoredBy_closesBlock.of_wide.any_congr rest
  induction parts, others, same using induct_bodies generalizing inside with
  | nil => rfl
  | cons line other later below here rest ih =>
    obtain ⟨kept, carries⟩ := body_keptOfLine here (closes rest) inside
    rw [keptLines, keptLines, List.map_cons, List.map_cons, kept, carries]
    exact congrArg _ (ih _)

namespace SameBetween

theorem mapLines {change : Text → Text} (same : margins.SameBetween first second)
    (spares : SparesBlanks change) (shorter : ∀ line, (change line).Sublist line) :
    margins.SameBetween (mapLines change first) (mapLines change second) := by
  unfold SameBetween
  rw [lines_mapLines_of_sublist shorter, lines_mapLines_of_sublist shorter, List.map_map,
    List.map_map]
  exact (spares.ignoredBy margins).map_congr same

theorem eraseBlocks (same : margins.SameBetween first second) :
    margins.SameBetween (eraseBlocks first) (eraseBlocks second) := by
  unfold SameBetween
  rw [lines_eraseBlocks, lines_eraseBlocks]
  exact map_body_keptLines same false

theorem stripSlashComments (same : margins.SameBetween first second) :
    margins.SameBetween (stripSlashComments first) (stripSlashComments second) :=
  same.eraseBlocks.mapLines sparesBlanks_beforeSlashes beforeSlashes_sublist

theorem stripComments (same : margins.SameBetween first second) (language : Language) :
    margins.SameBetween (stripComments first language) (stripComments second language) := by
  cases language with
  | cpp => exact same.stripSlashComments
  | java => exact same.stripSlashComments
  | python => exact same.mapLines sparesBlanks_beforeHash beforeHash_sublist
  | unidentified => exact same

end SameBetween

end Margins

end SnippetGauge
