import SnippetGauge.Text.Line

set_option autoImplicit false

namespace SnippetGauge.Text

def dropPrefix? : Text → Text → Option Text
  | [], text => some text
  | _ :: _, [] => none
  | p :: more, c :: text => if p == c then dropPrefix? more text else none

theorem dropPrefix?_eq_some_iff {start text rest : Text} :
    dropPrefix? start text = some rest ↔ text = start ++ rest := by
  fun_induction dropPrefix? start text with
  | case1 text => simp [eq_comm]
  | case2 => simp
  | case3 p more c text same ih => simp_all
  | case4 p more c text other =>
    simp only [reduceCtorEq, List.cons_append, List.cons.injEq, false_iff, not_and]
    intro same
    simp [same] at other

def startsWith (start text : Text) : Bool := (dropPrefix? start text).isSome

def endsWith (finish text : Text) : Bool := startsWith finish.reverse text.reverse

def startsWithAny (starts : List Text) (text : Text) : Bool := starts.any (startsWith · text)

def afterFirst? (needle : Text) : Text → Option Text
  | [] => dropPrefix? needle []
  | c :: rest =>
    match dropPrefix? needle (c :: rest) with
    | some after => some after
    | none => afterFirst? needle rest

def occursIn (needle text : Text) : Bool := (afterFirst? needle text).isSome

theorem occursIn_iff {needle text : Text} :
    occursIn needle text = true ↔ ∃ before after, text = before ++ needle ++ after := by
  unfold occursIn
  induction text with
  | nil =>
    simp only [afterFirst?, Option.isSome_iff_exists, dropPrefix?_eq_some_iff]
    constructor
    · intro ⟨rest, h⟩
      exact ⟨[], rest, by simpa using h⟩
    · intro ⟨before, after, h⟩
      simp_all
  | cons c rest ih =>
    simp only [afterFirst?]
    split
    next after h =>
      simp only [Option.isSome_some, true_iff]
      exact ⟨[], after, by simpa using dropPrefix?_eq_some_iff.mp h⟩
    next h =>
      rw [ih]
      constructor
      · intro ⟨before, after, same⟩
        exact ⟨c :: before, after, by simp [same]⟩
      · intro ⟨before, after, same⟩
        cases before with
        | nil =>
          have found := dropPrefix?_eq_some_iff.mpr (by simpa using same)
          simp [h] at found
        | cons d before =>
          simp only [List.cons_append, List.cons.injEq] at same
          exact ⟨before, after, same.2⟩

def splitAtFirst (mark : Char) (text : Text) : Text × Option Text :=
  match text.dropWhile (· != mark) with
  | [] => (text, none)
  | _ :: after => (text.takeWhile (· != mark), some after)

def splitOn (mark : Char) : Text → List Text
  | [] => [[]]
  | c :: rest =>
    if c == mark then [] :: splitOn mark rest
    else
      match splitOn mark rest with
      | [] => [[c]]
      | piece :: later => (c :: piece) :: later

end SnippetGauge.Text
