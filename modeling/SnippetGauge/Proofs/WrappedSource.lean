import SnippetGauge.Detection
import SnippetGauge.Proofs.HeaderComment
import SnippetGauge.Proofs.Margins

set_option autoImplicit false

namespace SnippetGauge

open Text

theorem sparesBlanks_stripSlashLines : SparesBlanks (mapLines beforeSlashes) :=
  sparesBlanks_beforeSlashes.mapLines rfl

theorem wide_ignoredBy_normalize : Margins.wide.IgnoredBy normalize :=
  (sparesBlanks_stripSlashLines.comp (sparesBlanks_eraseBlocksFrom false)).ignoredBy .wide

section

variable {front back : Text}

theorem normalize_append_left (blank : isBlankText front = true) (source : Text) :
    normalize (front ++ source) = normalize source :=
  wide_ignoredBy_normalize.read_append_left (List.all_eq_true.mp blank) source

theorem normalize_append_right (blank : isBlankText back = true) (source : Text) :
    normalize (source ++ back) = normalize source :=
  wide_ignoredBy_normalize.read_append_right (List.all_eq_true.mp blank) source

theorem normalize_blockComment {body : Text} (unclosed : ¬ ['*', '/'] <:+: body) (source : Text) :
    normalize (blockComment body ++ source) = normalize source := by
  have ignored := sparesBlanks_stripSlashLines.ignoredBy .wide
  have blank : ∀ c ∈ breaks (body.count '\n'), isBlank c = true := by
    intro c inside
    rw [List.eq_of_mem_replicate inside]
    rfl
  unfold normalize stripSlashComments
  rw [eraseBlocks_blockComment _ unclosed]
  exact ignored.read_append_left blank (eraseBlocks source)

theorem score_wrapped {body : Text} (frontBlank : isBlankText front = true)
    (backBlank : isBlankText back = true) (unclosed : ¬ ['*', '/'] <:+: body) (source : Text) :
    let commented := front ++ blockComment body ++ source ++ back
    let padded := front ++ source ++ back
    score commented = score padded ∧ score padded = score source ∧
      detect commented = detect source ∧ detect padded = detect source := by
  have padded : score (front ++ source ++ back) = score source := by
    unfold score
    rw [normalize_append_right backBlank, normalize_append_left frontBlank]
  have commented : score (front ++ blockComment body ++ source ++ back) = score source := by
    unfold score
    rw [normalize_append_right backBlank, List.append_assoc, normalize_append_left frontBlank,
      normalize_blockComment unclosed]
  refine ⟨commented.trans padded.symm, padded, ?_, ?_⟩
  next => rw [detect, commented, detect]
  next => rw [detect, padded, detect]

theorem score_wrapped_openComment :
    let front := " \n\t".toList
    let back := "\n\u2003 ".toList
    let body := "/ #include /* def \n//*".toList
    let source := "import x\ndef f():\n    print(x) // y /* z".toList
    isBlankText front = true ∧ isBlankText back = true ∧ ¬ ['*', '/'] <:+: body ∧
      score (front ++ blockComment body ++ source ++ back) = score (front ++ source ++ back) ∧
      score (front ++ source ++ back) = score source ∧
      detect (front ++ blockComment body ++ source ++ back) = .python := by
  intro front back body source
  have frontBlank : isBlankText front = true := by decide
  have backBlank : isBlankText back = true := by decide
  have unclosed : ¬ ['*', '/'] <:+: body := by decide
  obtain ⟨commented, padded, detected, _⟩ := score_wrapped frontBlank backBlank unclosed source
  exact ⟨frontBlank, backBlank, unclosed, commented, padded, detected.trans (by decide)⟩

end

end SnippetGauge
