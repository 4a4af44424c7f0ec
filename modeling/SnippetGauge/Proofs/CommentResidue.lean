import SnippetGauge.Proofs.HeaderComment
import SnippetGauge.Proofs.UntouchedTexts

set_option autoImplicit false

namespace SnippetGauge

open Text

section

variable {c : Char} {code text more rest kept : Text}

theorem closesBlock_mono (closes : closesBlock text = true) (within : text <:+: more) :
    closesBlock more = true :=
  closesBlock_iff.mpr ((closesBlock_iff.mp closes).trans within)

theorem not_slashes_infix_beforeSlashes (line : Text) : ¬ ['/', '/'] <:+: beforeSlashes line := by
  rcases beforeSlashes_cases line with ⟨same, without⟩ | ⟨_, without, _⟩
  next => rwa [same]
  next => exact without

theorem not_slashes_infix_mapLines (text : Text) :
    ¬ ['/', '/'] <:+: mapLines beforeSlashes text := by
  rw [infix_iff_mem_lines (by decide), lines_mapLines_of_sublist beforeSlashes_sublist]
  rintro ⟨left, inside, found⟩
  obtain ⟨line, _, rfl⟩ := List.mem_map.mp inside
  exact not_slashes_infix_beforeSlashes line found

theorem infix_of_infix_mapLines {needle : Text} (single : '\n' ∉ needle)
    (found : needle <:+: mapLines beforeSlashes text) : needle <:+: text := by
  rw [infix_iff_mem_lines single, lines_mapLines_of_sublist beforeSlashes_sublist] at found
  obtain ⟨left, inside, found⟩ := found
  obtain ⟨line, stands, rfl⟩ := List.mem_map.mp inside
  have within := found.trans (beforeSlashes_isPrefix line).isInfix
  exact within.trans (infix_of_mem_lines stands)

theorem mapLines_beforeSlashes_append (single : ¬ ['/', '/'] <:+: code)
    (last : code.getLast? ≠ some '/') (more : Text) :
    mapLines beforeSlashes (code ++ more) = code ++ mapLines beforeSlashes more := by
  induction code with
  | nil => rfl
  | cons c code ih =>
    have later : ¬ ['/', '/'] <:+: code := mt List.infix_cons single
    rw [List.cons_append, mapLines_beforeSlashes_cons, List.cons_append]
    next =>
      cases code with
      | nil => rfl
      | cons d code => rw [ih later (by rwa [List.getLast?_cons_cons] at last)]
    next =>
      rintro tail rfl found
      cases code with
      | nil => exact last rfl
      | cons d code =>
        rw [(List.cons.inj found).1] at single
        exact single ⟨[], code, rfl⟩

theorem mapLines_beforeSlashes_mark
    (slash : mapLines beforeSlashes (code ++ ['/']) = mapLines beforeSlashes code ++ ['/']) :
    mapLines beforeSlashes (code ++ '/' :: '*' :: more) =
      mapLines beforeSlashes code ++ '/' :: '*' :: mapLines beforeSlashes more := by
  induction code using induct_lines with
  | last line single =>
    have one : '\n' ∉ line ++ ['/'] := by simp [single]
    rw [mapLines_of_single _ one, mapLines_of_single _ single] at slash
    rcases beforeSlashes_cases (line ++ ['/']) with ⟨_, without⟩ | ⟨last, _⟩
    next =>
      have bare : ¬ ['/', '/'] <:+: line :=
        mt (·.trans (List.prefix_append line ['/']).isInfix) without
      have marked : ¬ ['/', '/'] <:+: line ++ ['/', '*'] := by
        rw [List.append_cons, List.infix_concat_iff]
        rintro (ends | inner)
        next =>
          obtain ⟨before, whole⟩ := ends
          simpa using congrArg List.getLast? whole
        next => exact without inner
      have split : line ++ '/' :: '*' :: more = (line ++ ['/', '*']) ++ more := by simp
      rw [split, mapLines_beforeSlashes_append marked (by simp), mapLines_of_single _ single,
        beforeSlashes_eq_self_iff.mpr bare, List.append_assoc]
      rfl
    next =>
      rw [slash] at last
      simp at last
  | above line rest single ih =>
    rw [List.append_assoc, List.cons_append, mapLines_append_break _ single,
      mapLines_append_break _ single, List.append_assoc, List.append_cancel_left_eq,
      List.cons_append, List.cons.injEq] at slash
    rw [List.append_assoc, List.cons_append, mapLines_append_break _ single,
      mapLines_append_break _ single, ih slash.2, List.append_assoc, List.cons_append]

theorem exists_of_mapLines_eq_break (same : mapLines beforeSlashes text = '\n' :: rest) :
    ∃ line below, text = line ++ '\n' :: below ∧ '\n' ∉ line ∧ beforeSlashes line = [] ∧
      mapLines beforeSlashes below = rest := by
  have one {line : Text} (single : '\n' ∉ line) : '\n' ∉ beforeSlashes line :=
    fun found => single ((beforeSlashes_sublist line).subset found)
  induction text using induct_lines with
  | last line single =>
    rw [mapLines_of_single _ single] at same
    exact absurd (by simp [same]) (one single)
  | above line below single ih =>
    rw [mapLines_append_break _ single, append_break_eq_iff (one single)] at same
    exact ⟨line, below, rfl, single, same⟩

theorem exists_of_mapLines_eq_cons (other : c ≠ '\n')
    (same : mapLines beforeSlashes text = c :: rest) :
    ∃ behind, text = c :: behind ∧ mapLines beforeSlashes behind = rest ∧
      ∀ tail, c = '/' → behind = '/' :: tail → False := by
  cases text with
  | nil => cases same
  | cons d behind =>
    by_cases slashes : ∃ tail, d = '/' ∧ behind = '/' :: tail
    next =>
      obtain ⟨tail, rfl, rfl⟩ := slashes
      obtain ⟨line, later, found⟩ := exists_lines_eq tail
      have plain : '/' ≠ '\n' := by decide
      have split := lines_cons_of_ne plain (lines_cons_of_ne plain found)
      rw [mapLines, split, List.map_cons, beforeSlashes] at same
      cases later with
      | nil => cases same
      | cons next later => exact absurd (List.cons.inj same).1.symm other
    next =>
      have apart : ∀ tail, d = '/' → behind = '/' :: tail → False :=
        fun tail slash more => slashes ⟨tail, slash, more⟩
      rw [mapLines_beforeSlashes_cons apart] at same
      obtain ⟨rfl, kept⟩ := List.cons.inj same
      exact ⟨behind, rfl, kept, apart⟩

theorem exists_of_mapLines_eq_mark
    (same : mapLines beforeSlashes text = kept ++ '/' :: '*' :: rest) :
    ∃ before behind, text = before ++ '/' :: '*' :: behind ∧
      mapLines beforeSlashes before = kept ∧
      mapLines beforeSlashes (before ++ ['/']) = kept ++ ['/'] ∧
      mapLines beforeSlashes behind = rest := by
  induction kept generalizing text with
  | nil =>
    obtain ⟨behind, rfl, star, _⟩ := exists_of_mapLines_eq_cons (by decide) same
    obtain ⟨behind, rfl, later, _⟩ := exists_of_mapLines_eq_cons (by decide) star
    exact ⟨[], behind, rfl, rfl, rfl, later⟩
  | cons c kept ih =>
    by_cases ends : c = '\n'
    next =>
      subst ends
      obtain ⟨line, below, rfl, single, cut, later⟩ := exists_of_mapLines_eq_break same
      obtain ⟨before, behind, rfl, front, slash, back⟩ := ih later
      refine ⟨line ++ '\n' :: before, behind, by simp, ?_, ?_, back⟩
      next => rw [mapLines_append_break _ single, cut, front, List.nil_append]
      next =>
        rw [List.append_assoc, List.cons_append, mapLines_append_break _ single, cut, slash,
          List.nil_append, List.cons_append]
    next =>
      obtain ⟨text, rfl, later, apart⟩ := exists_of_mapLines_eq_cons ends same
      obtain ⟨before, behind, rfl, front, slash, back⟩ := ih later
      -- What follows the character starts with the same one whether the rest is there or not.
      have apartHere : ∀ tail, c = '/' → before = '/' :: tail → False := by
        rintro tail first rfl
        exact apart _ first rfl
      have apartSlash : ∀ tail, c = '/' → before ++ ['/'] = '/' :: tail → False := by
        intro tail first found
        cases before with
        | nil => exact apart _ first rfl
        | cons d before => exact apartHere before first (by rw [(List.cons.inj found).1])
      refine ⟨c :: before, behind, rfl, ?_, ?_, back⟩
      next => rw [mapLines_beforeSlashes_cons apartHere, front]
      next => rw [List.cons_append, mapLines_beforeSlashes_cons apartSlash, slash, List.cons_append]

theorem closesBlock_of_not_endsInside (ends : endsInside true text = false) :
    closesBlock text = true := by
  cases closes : closesBlock text with
  | true => rfl
  | false =>
    rw [endsInside_of_not_closesBlock closes] at ends
    contradiction

theorem eraseBlocksFrom_append_of_outside {inside : Bool} (ends : endsInside inside text = false)
    (other : more.head? ≠ some '*') :
    eraseBlocksFrom inside (text ++ more) =
      outsideBlocks inside text ++ eraseBlocksFrom false more := by
  fun_induction endsInside inside text with
  | case1 inside =>
    subst ends
    rfl
  | case2 rest ih => exact ih ends
  | case3 c rest single ih =>
    have apart : ∀ tail, c = '*' → rest ++ more = '/' :: tail → False := by
      intro tail star found
      cases rest with
      | nil => contradiction
      | cons d rest => exact single rest star (by rw [(List.cons.inj found).1])
    by_cases same : c = '\n'
    next =>
      subst same
      rw [List.cons_append, eraseBlocksFrom, outsideBlocks, ih ends, List.cons_append]
    next =>
      rw [List.cons_append, eraseBlocksFrom, outsideBlocks, ih ends]
      all_goals assumption
  | case4 rest ih =>
    have closes : closesBlock (rest ++ more) = true :=
      closesBlock_mono (closesBlock_of_not_endsInside ends)
        (List.prefix_append rest more).isInfix
    rw [List.cons_append, List.cons_append, eraseBlocksFrom, if_pos closes, outsideBlocks, ih ends]
  | case5 c rest single ih =>
    have apart : ∀ tail, c = '/' → rest ++ more = '*' :: tail → False := by
      intro tail slash found
      cases rest with
      | nil => exact other (by rw [← List.nil_append more, found]; rfl)
      | cons d rest => exact single rest slash (by rw [(List.cons.inj found).1])
    rw [List.cons_append, eraseBlocksFrom, outsideBlocks, ih ends, List.cons_append]
    all_goals assumption

def IsLineBody (body : Text) : Prop := ¬ ['*', '/'] <:+: body ∧ '\n' ∉ body

theorem eraseBlocks_lineBlocks {bodies : List Text} (within : ∀ body ∈ bodies, IsLineBody body)
    (more : Text) : eraseBlocks (bodies.flatMap blockComment ++ more) = eraseBlocks more := by
  induction bodies with
  | nil => rfl
  | cons body bodies ih =>
    obtain ⟨⟨unclosed, single⟩, later⟩ := List.forall_mem_cons.mp within
    rw [List.flatMap_cons, List.append_assoc, eraseBlocks_blockComment _ unclosed,
      List.count_eq_zero.mpr single, ih later]
    rfl

def ShowsStar (text later : Text) : Prop :=
  ∃ (bodies : List Text) (back : Text), text = bodies.flatMap blockComment ++ '*' :: back ∧
    (∀ body ∈ bodies, IsLineBody body) ∧ eraseBlocks back = later

theorem isLineBody_cons (single : c ≠ '\n') {body after : Text}
    (other : ∀ rest, c = '*' → body ++ '*' :: after = '/' :: rest → False)
    (within : IsLineBody body) : IsLineBody (c :: body) := by
  obtain ⟨unclosed, plain⟩ := within
  constructor
  next =>
    rw [List.infix_cons_iff]
    rintro (⟨tail, found⟩ | inner)
    next =>
      obtain ⟨star, rfl⟩ := List.cons.inj found
      exact other _ star.symm rfl
    next => exact unclosed inner
  next => simp [single.symm, plain]

theorem showsStar_of_eraseBlocksFrom {inside : Bool} {later : Text}
    (starts : eraseBlocksFrom inside text = '*' :: later) :
    if inside then ∃ body rest, text = body ++ '*' :: '/' :: rest ∧ IsLineBody body ∧
      ShowsStar rest later
    else ShowsStar text later := by
  fun_induction eraseBlocksFrom inside text with
  | case1 => cases starts
  | case2 rest ih => exact ⟨[], rest, rfl, ⟨by simp, by simp⟩, ih starts⟩
  | case3 rest ih => cases starts
  | case4 c rest other single ih =>
    obtain ⟨body, behind, rfl, within, shows⟩ := ih starts
    exact ⟨c :: body, behind, rfl, isLineBody_cons single other within, shows⟩
  | case5 rest closes ih =>
    obtain ⟨body, behind, rfl, within, bodies, back, rfl, others, same⟩ := ih starts
    exact ⟨body :: bodies, back, by simp [blockComment],
      List.forall_mem_cons.mpr ⟨within, others⟩, same⟩
  | case6 rest closes => cases starts
  | case7 c rest other ih =>
    obtain ⟨rfl, same⟩ := List.cons.inj starts
    exact ⟨[], rest, rfl, by simp, same⟩

theorem exists_of_eraseBlocksFrom_eq_mark {inside : Bool} {later : Text}
    (same : eraseBlocksFrom inside text = kept ++ '/' :: '*' :: later)
    (closes : closesBlock later = true) :
    ∃ front behind, text = front ++ '/' :: behind ∧ endsInside inside front = false ∧
      outsideBlocks inside front = kept ∧ behind.head? ≠ some '*' ∧ ShowsStar behind later := by
  fun_induction eraseBlocksFrom inside text generalizing kept with
  | case1 => simp at same
  | case2 rest ih =>
    obtain ⟨front, behind, rfl, ends, left, apart, shows⟩ := ih same
    exact ⟨'*' :: '/' :: front, behind, rfl, ends, left, apart, shows⟩
  | case3 rest ih =>
    cases kept with
    | nil => simp at same
    | cons d kept =>
      obtain ⟨rfl, tail⟩ := List.cons.inj same
      obtain ⟨front, behind, rfl, ends, rfl, apart, shows⟩ := ih tail
      exact ⟨'\n' :: front, behind, rfl, ends, rfl, apart, shows⟩
  | case4 c rest other single ih =>
    obtain ⟨front, behind, rfl, ends, left, apart, shows⟩ := ih same
    have apartFront : ∀ tail, c = '*' → front = '/' :: tail → False := by
      rintro tail star rfl
      exact other _ star rfl
    refine ⟨c :: front, behind, rfl, ?_, ?_, apart, shows⟩
    next => rwa [endsInside]; exact apartFront
    next => rwa [outsideBlocks]; all_goals assumption
  | case5 rest closed ih =>
    obtain ⟨front, behind, rfl, ends, left, apart, shows⟩ := ih same
    exact ⟨'/' :: '*' :: front, behind, rfl, ends, left, apart, shows⟩
  | case6 rest unclosed =>
    have ends : later <:+ '/' :: '*' :: rest := ⟨kept ++ ['/', '*'], by simp [same]⟩
    have shorter : later.length ≤ rest.length := by
      have lengths := congrArg List.length same
      simp only [List.length_cons, List.length_append] at lengths
      omega
    have within : later <:+ rest :=
      List.suffix_of_suffix_length_le ends (List.suffix_append ['/', '*'] rest) shorter
    exact absurd (closesBlock_mono closes within.isInfix) unclosed
  | case7 c rest other ih =>
    cases kept with
    | nil =>
      obtain ⟨rfl, starts⟩ := List.cons.inj same
      refine ⟨[], rest, rfl, rfl, rfl, ?_, showsStar_of_eraseBlocksFrom starts⟩
      intro star
      obtain ⟨tail, rfl⟩ := List.head?_eq_some_iff.mp star
      exact other tail rfl rfl
    | cons d kept =>
      obtain ⟨rfl, tail⟩ := List.cons.inj same
      obtain ⟨front, behind, rfl, ends, rfl, apart, shows⟩ := ih tail
      have apartFront : ∀ tail, c = '/' → front = '*' :: tail → False := by
        rintro tail slash rfl
        exact other _ slash rfl
      refine ⟨c :: front, behind, rfl, ?_, ?_, apart, shows⟩
      next => rwa [endsInside]; exact apartFront
      next => rw [outsideBlocks]; exact apartFront

end

/-- Between a slash that is left in its line and a star, only block comments stand, and when they
are gone the two begin a block that what follows closes. -/
structure JoinsMark (front : Text) (bodies : List Text) (back : Text) : Prop where
  outside : endsInside false front = false
  slash : stripSlashComments (front ++ ['/']) = stripSlashComments front ++ ['/']
  filled : bodies ≠ []
  bodies : ∀ body ∈ bodies, IsLineBody body
  closes : ['*', '/'] <:+: stripSlashComments back

def JoinsBlock (source : Text) : Prop :=
  ∃ (front : Text) (bodies : List Text) (back : Text),
    source = front ++ '/' :: (bodies.flatMap blockComment ++ '*' :: back) ∧
      JoinsMark front bodies back

section

variable {front back source : Text} {bodies : List Text}

theorem eraseBlocks_slash (outside : endsInside false front = false) {behind : Text}
    (other : behind.head? ≠ some '*') :
    eraseBlocks (front ++ '/' :: behind) = eraseBlocks front ++ '/' :: eraseBlocks behind := by
  have kept : eraseBlocksFrom false ('/' :: behind) = '/' :: eraseBlocksFrom false behind := by
    rw [eraseBlocksFrom]
    rintro tail - rfl
    exact other rfl
  unfold eraseBlocks
  rw [eraseBlocksFrom_append_of_outside outside (by simp), kept,
    eraseBlocksFrom_eq_outsideBlocks outside]

theorem JoinsMark.stripSlashComments_eq (joins : JoinsMark front bodies back) :
    stripSlashComments (front ++ '/' :: (bodies.flatMap blockComment ++ '*' :: back)) =
      stripSlashComments front ++ '/' :: '*' :: stripSlashComments back := by
  have apart : (bodies.flatMap blockComment ++ '*' :: back).head? ≠ some '*' := by
    obtain ⟨body, others, rfl⟩ := List.exists_cons_of_ne_nil joins.filled
    simp [blockComment]
  have star : eraseBlocks ('*' :: back) = '*' :: eraseBlocks back := by
    unfold eraseBlocks
    rw [eraseBlocksFrom]
    simp
  have slash := joins.slash
  have alone : eraseBlocks (front ++ ['/']) = eraseBlocks front ++ ['/'] :=
    eraseBlocks_slash joins.outside (by simp)
  unfold stripSlashComments at slash ⊢
  rw [alone] at slash
  rw [eraseBlocks_slash joins.outside apart, eraseBlocks_lineBlocks joins.bodies, star,
    mapLines_beforeSlashes_mark slash]

theorem joinsBlock_of_holdsBlock (holds : HoldsBlock (stripSlashComments source)) :
    JoinsBlock source := by
  obtain ⟨kept, rest, whole, closes⟩ := holdsBlock_iff.mp holds
  obtain ⟨before, later, erased, first, slash, last⟩ := exists_of_mapLines_eq_mark whole
  subst last
  have closed : closesBlock later = true :=
    closesBlock_iff.mpr (infix_of_infix_mapLines (by decide) (closesBlock_iff.mp closes))
  obtain ⟨front, behind, rfl, outside, left, apart, bodies, back, rfl, within, rfl⟩ :=
    exists_of_eraseBlocksFrom_eq_mark erased closed
  have frontErased : eraseBlocks front = before := by
    rw [← left]
    exact eraseBlocksFrom_eq_outsideBlocks outside
  refine ⟨front, bodies, back, rfl, outside, ?_, ?_, within, closesBlock_iff.mp closes⟩
  next =>
    have alone : eraseBlocks (front ++ ['/']) = eraseBlocks front ++ ['/'] :=
      eraseBlocks_slash outside (by simp)
    rw [stripSlashComments, stripSlashComments, alone, frontErased, slash, first]
  next =>
    rintro rfl
    exact apart rfl

/-- What is left holds no line comment. It holds a block exactly where a slash and a star that were
apart come together, and only then would a second removal change it. -/
theorem stripSlashComments_residue (source : Text) :
    ¬ ['/', '/'] <:+: stripSlashComments source ∧
      (HoldsBlock (stripSlashComments source) ↔ JoinsBlock source) ∧
      (stripSlashComments (stripSlashComments source) = stripSlashComments source ↔
        ¬ JoinsBlock source) := by
  have single := not_slashes_infix_mapLines (eraseBlocks source)
  have holds_iff : HoldsBlock (stripSlashComments source) ↔ JoinsBlock source := by
    constructor
    next => exact joinsBlock_of_holdsBlock
    next =>
      rintro ⟨front, bodies, back, rfl, joins⟩
      exact holdsBlock_iff.mpr
        ⟨_, _, joins.stripSlashComments_eq, closesBlock_iff.mpr joins.closes⟩
  refine ⟨single, holds_iff, ?_⟩
  rw [stripSlashComments_eq_self_iff, holds_iff]
  exact and_iff_right single

example : stripSlashComments "//**/* */".toList = "/* */".toList := by decide

end

def joinedMark : Text := "//**/* */".toList

theorem not_leavesNoBlock :
    ¬ ∀ source, ¬ ['/', '/'] <:+: stripSlashComments source ∧
      ¬ HoldsBlock (stripSlashComments source) ∧
        stripSlashComments (stripSlashComments source) = stripSlashComments source := by
  intro leaves
  have again := (leaves joinedMark).2.2
  revert again
  decide

end SnippetGauge
