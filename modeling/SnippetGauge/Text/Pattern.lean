import SnippetGauge.Text.LetterCase
import SnippetGauge.Text.Line

set_option autoImplicit false

namespace SnippetGauge

open Text

inductive Pattern where
  | nothing
  | one (accepts : Char → Bool)
  | run (accepts : Char → Bool)
  | seq (first second : Pattern)
  | alt (left right : Pattern)

namespace Pattern

def runRests (accepts : Char → Bool) : Text → List Text
  | [] => [[]]
  | c :: rest => if accepts c then runRests accepts rest ++ [c :: rest] else [c :: rest]

/-- What each match at the start of the text leaves over, preferred matches first. -/
def rests : Pattern → Text → List Text
  | nothing, text => [text]
  | one _, [] => []
  | one accepts, c :: rest => if accepts c then [rest] else []
  | run accepts, text => runRests accepts text
  | seq first second, text => (first.rests text).flatMap second.rests
  | alt left right, text => left.rests text ++ right.rests text

def startsText (p : Pattern) (text : Text) : Bool := !(p.rests text).isEmpty

def occursIn (p : Pattern) : Text → Bool
  | [] => p.startsText []
  | c :: rest => p.startsText (c :: rest) || p.occursIn rest

theorem rests_append {p : Pattern} {text rest : Text} (h : rest ∈ p.rests text) (more : Text) :
    rest ++ more ∈ p.rests (text ++ more) := by
  induction p generalizing text rest with
  | nothing => simp_all [rests]
  | one accepts =>
    cases text with
    | nil => simp [rests] at h
    | cons c text =>
      by_cases ok : accepts c = true <;> simp_all [rests]
  | run accepts =>
    simp only [rests] at h ⊢
    induction text with
    | nil =>
      simp only [runRests, List.mem_singleton] at h
      subst h
      cases more with
      | nil => simp [runRests]
      | cons c more => simp only [List.nil_append, runRests]; split <;> simp
    | cons c text ih =>
      by_cases ok : accepts c = true
      · simp only [runRests, ok, if_true, List.mem_append, List.mem_singleton] at h
        simp only [List.cons_append, runRests, ok, if_true, List.mem_append, List.mem_singleton]
        rcases h with h | rfl
        · exact .inl (ih h)
        · exact .inr rfl
      · simp_all [runRests]
  | seq first second ihFirst ihSecond =>
    simp only [rests, List.mem_flatMap] at h ⊢
    obtain ⟨middle, hm, hr⟩ := h
    exact ⟨middle ++ more, ihFirst hm, ihSecond hr⟩
  | alt left right ihLeft ihRight =>
    simp only [rests, List.mem_append] at h ⊢
    exact h.imp ihLeft ihRight

def char (c : Char) : Pattern := one (· == c)

def blanks : Pattern := run isBlank

def someBlanks : Pattern := seq (one isBlank) blanks

def optional (p : Pattern) : Pattern := alt p nothing

def all (parts : List Pattern) : Pattern := parts.foldr seq nothing

def oneOf (choices : List Pattern) : Pattern := choices.foldr alt (one fun _ => false)

def literal (text : Text) : Pattern := all (text.map char)

def letters (text : Text) : Pattern := all (text.map fun c => one (sameLetter c))

end Pattern

end SnippetGauge
