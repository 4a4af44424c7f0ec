import SnippetGauge.Proofs.CommentLines
import SnippetGauge.Token

set_option autoImplicit false

namespace SnippetGauge

open Text

theorem flatten_consWord {α : Type} (word : List α) (later : List (List α)) :
    (consWord word later).flatten = word ++ later.flatten := by
  cases word <;> simp [consWord]

theorem flatten_splitPieces (line : Text) :
    (splitPieces line).1 ++ (splitPieces line).2.flatten = line.filter (!isBlank ·) := by
  induction line with
  | nil => rfl
  | cons c rest ih =>
    simp only [splitPieces]
    by_cases blank : isBlank c = true
    · simpa [blank, flatten_consWord] using ih
    · by_cases mark : isPunctuation c = true
      · simpa [blank, mark, flatten_consWord] using ih
      · simpa [blank, mark] using ih

theorem flatten_pieces (line : Text) : (pieces line).flatten = line.filter (!isBlank ·) := by
  rw [← flatten_splitPieces line]
  exact flatten_consWord _ _

def tokensFrom (language : Language) (first : Nat) (source : List Text) : List Token :=
  (source.zipIdx first).flatMap fun (line, number) => tokenizeLine language number line

theorem tokensFrom_cons (language : Language) (first : Nat) (line : Text) (later : List Text) :
    tokensFrom language first (line :: later) =
      tokenizeLine language first line ++ tokensFrom language (first + 1) later := by
  simp [tokensFrom, List.zipIdx_cons]

theorem line_of_mem_tokenizeLine {language : Language} {number : Nat} {line : Text} {token : Token}
    (inside : token ∈ tokenizeLine language number line) : token.line = number := by
  obtain ⟨piece, _, rfl⟩ := List.mem_map.mp inside
  rfl

theorem line_of_mem_tokensFrom {language : Language} {first : Nat} {source : List Text}
    {token : Token} (inside : token ∈ tokensFrom language first source) :
    first ≤ token.line ∧ token.line < first + source.length := by
  induction source generalizing first with
  | nil => simp [tokensFrom] at inside
  | cons line later ih =>
    rw [tokensFrom_cons, List.mem_append] at inside
    rw [List.length_cons]
    rcases inside with here | there
    · have same := line_of_mem_tokenizeLine here
      omega
    · have bounds := ih there
      omega

theorem tokensFrom_pairwise (language : Language) (first : Nat) (source : List Text) :
    (tokensFrom language first source).Pairwise (·.line ≤ ·.line) := by
  induction source generalizing first with
  | nil => simp [tokensFrom]
  | cons line later ih =>
    rw [tokensFrom_cons, List.pairwise_append]
    refine ⟨?_, ih (first + 1), ?_⟩
    · apply List.pairwise_of_forall_mem_list
      intro a insideA b insideB
      have sameA := line_of_mem_tokenizeLine insideA
      have sameB := line_of_mem_tokenizeLine insideB
      omega
    · intro a here b there
      have bounds := line_of_mem_tokensFrom there
      rw [line_of_mem_tokenizeLine here]
      omega

def spelledOn (number : Nat) (tokens : List Token) : Text :=
  (tokens.filter (·.line == number)).flatMap (·.value)

theorem spelledOn_append (number : Nat) (first second : List Token) :
    spelledOn number (first ++ second) = spelledOn number first ++ spelledOn number second := by
  simp [spelledOn]

theorem spelledOn_eq_nil {number : Nat} {tokens : List Token}
    (other : ∀ token ∈ tokens, token.line ≠ number) : spelledOn number tokens = [] := by
  unfold spelledOn
  rw [List.filter_eq_nil_iff.mpr]
  · rfl
  · intro token inside
    simpa using other token inside

theorem spelledOn_tokenizeLine (language : Language) (number : Nat) (line : Text) :
    spelledOn number (tokenizeLine language number line) = line.filter (!isBlank ·) := by
  unfold spelledOn
  rw [List.filter_eq_self.mpr]
  · rw [← flatten_pieces, tokenizeLine, List.flatMap_map, List.flatMap_id']
  · intro token inside
    simp [line_of_mem_tokenizeLine inside]

theorem spelledOn_tokensFrom (language : Language) (first i : Nat) (source : List Text) :
    spelledOn (first + i) (tokensFrom language first source) =
      (source.getD i []).filter (!isBlank ·) := by
  induction source generalizing first i with
  | nil => rfl
  | cons line later ih =>
    rw [tokensFrom_cons, spelledOn_append]
    cases i with
    | zero =>
      have rest : spelledOn first (tokensFrom language (first + 1) later) = [] := by
        apply spelledOn_eq_nil
        intro token inside
        have bounds := line_of_mem_tokensFrom inside
        omega
      simp only [Nat.add_zero, rest, List.append_nil, List.getD_cons_zero]
      exact spelledOn_tokenizeLine language first line
    | succ i =>
      have here : spelledOn (first + (i + 1)) (tokenizeLine language first line) = [] := by
        apply spelledOn_eq_nil
        intro token inside
        rw [line_of_mem_tokenizeLine inside]
        omega
      rw [here, List.nil_append, List.getD_cons_succ, ← ih (first + 1) i]
      congr 1
      omega

/-- On each line the tokens spell what is neither comment nor white space; the tokens are in the
order of the lines, and on lines of the source. -/
theorem tokenize_lossless (source : Text) (language : Language) :
    (∀ i, spelledOn (i + 1) (tokenize source language) =
      ((lines (stripComments source language)).getD i []).filter (!isBlank ·)) ∧
    (tokenize source language).Pairwise (·.line ≤ ·.line) ∧
    ∀ token ∈ tokenize source language, 1 ≤ token.line ∧ token.line ≤ lineCount source := by
  have count := (stripComments_aligned source language).lineCount_eq
  refine ⟨?_, tokensFrom_pairwise language 1 _, ?_⟩
  · intro i
    rw [Nat.add_comm]
    exact spelledOn_tokensFrom language 1 i _
  · intro token inside
    have bounds := line_of_mem_tokensFrom inside
    unfold lineCount at count ⊢
    omega

end SnippetGauge
