import Stemming.Proofs.Norwegian.Beginnings
import Stemming.Proofs.Norwegian.Program
import Stemming.Proofs.Text.CaseFolding
import Stemming.Stemmer

set_option autoImplicit false

namespace Stemming.Norwegian

/-- Stemming is folding and then the rules for words; it never comes to a violation or a trap. -/
theorem tryStem_eq_stemOf_fold (word : String) :
    Stemmer.tryStem ⟨.norwegian⟩ word = .ok (String.ofList (stemOf (Text.fold word.toList))) := by
  unfold Stemmer.tryStem
  by_cases empty : word.isEmpty
  · rw [if_pos empty, String.isEmpty_iff.mp empty]
    rfl
  · obtain ⟨after, ran, wellFormed, letters⟩ := run_ofWord (Text.fold word.toList)
    have executed : Language.norwegian.program.execute (Text.fold word.toList) =
        .ok after.letters := execute_of_run ran wellFormed
    rw [if_neg empty, executed, letters]
    rfl

/-- The stem of a word is a beginning of the folded word. It holds the letters before the region, so
also the first three. -/
theorem tryStem_eq_take_fold (word : String) :
    ∃ stem count, Stemmer.tryStem ⟨.norwegian⟩ word = .ok stem ∧
      stem.toList = (Text.fold word.toList).take count ∧
      regionFrom (Text.fold word.toList) ≤ count ∧ count ≤ word.length ∧
      stem.toList.take (regionFrom (Text.fold word.toList)) =
        (Text.fold word.toList).take (regionFrom (Text.fold word.toList)) ∧
      stem.toList.take 3 = (Text.fold word.toList).take 3 := by
  have trimmed := trimmed_stemOf (Text.fold word.toList)
  have region := trimmed.region
  have inWord := regionFrom_le_length (Text.fold word.toList)
  have three := min_three_le_regionFrom (Text.fold word.toList)
  have short := trimmed.begins.length_le
  have folded : (Text.fold word.toList).length = word.length := by
    rw [Text.length_fold, String.length_toList]
  refine ⟨_, (stemOf (Text.fold word.toList)).length, tryStem_eq_stemOf_fold word, ?_⟩
  rw [String.toList_ofList]
  exact ⟨trimmed.eq_take, by omega, by omega, trimmed.take_eq (by omega),
    trimmed.take_eq (by omega)⟩

end Stemming.Norwegian

namespace Stemming.Stemmer

/-- Every word has a stem, whatever the stemmer. -/
theorem tryStem_eq_stem (stemmer : Stemmer) (word : String) :
    stemmer.tryStem word = .ok (stemmer.stem word) := by
  obtain ⟨language⟩ := stemmer
  cases language with
  | norwegian => rw [stem, Norwegian.tryStem_eq_stemOf_fold]

theorem tryStem_eq_of_fold_eq (stemmer : Stemmer) {word other : String}
    (alike : Text.fold word.toList = Text.fold other.toList) :
    stemmer.tryStem word = stemmer.tryStem other := by
  obtain ⟨language⟩ := stemmer
  cases language with
  | norwegian =>
      rw [Norwegian.tryStem_eq_stemOf_fold, Norwegian.tryStem_eq_stemOf_fold, alike]

/-- The rules bring in no letter that the folded word does not have. -/
theorem mem_fold_of_tryStem {stemmer : Stemmer} {word stem : String} {letter : Char}
    (stemmed : stemmer.tryStem word = .ok stem) (member : letter ∈ stem.toList) :
    letter ∈ Text.fold word.toList := by
  obtain ⟨language⟩ := stemmer
  cases language with
  | norwegian =>
      rw [Norwegian.tryStem_eq_stemOf_fold] at stemmed
      rw [← Except.ok.inj stemmed, String.toList_ofList] at member
      exact (Norwegian.trimmed_stemOf _).begins.subset member

/-- A stem does not depend on the case of the letters. Words that fold alike letter by letter have
the same stem, so a folded word has the stem of the word, and every stem is in lower case. -/
theorem tryStem_ignores_case (stemmer : Stemmer) :
    (∀ word other : String,
      List.Forall₂ (fun letter same => Text.lower letter = Text.lower same)
        word.toList other.toList → stemmer.tryStem word = stemmer.tryStem other) ∧
    (∀ word : String,
      stemmer.tryStem (String.ofList (Text.fold word.toList)) = stemmer.tryStem word) ∧
    ∀ word : String, ∃ stem, stemmer.tryStem word = .ok stem ∧
      ∀ letter ∈ stem.toList, Text.lower letter = letter := by
  refine ⟨?alike, ?folded, ?lowered⟩
  case alike =>
    intro word other alike
    exact stemmer.tryStem_eq_of_fold_eq (Text.fold_eq_fold_iff.mpr alike)
  case folded =>
    intro word
    apply stemmer.tryStem_eq_of_fold_eq
    rw [String.toList_ofList, Text.fold_fold]
  case lowered =>
    intro word
    refine ⟨_, stemmer.tryStem_eq_stem word, fun letter member => ?_⟩
    exact Text.lower_eq_of_mem_fold (mem_fold_of_tryStem (stemmer.tryStem_eq_stem word) member)

/-- The sign for kelvin folds to `k`, and a capital I with a dot to `i` alone. -/
theorem tryStem_ignores_case_kelvin :
    List.Forall₂ (fun letter same => Text.lower letter = Text.lower same)
        "\u212aRİTİSKE".toList "kritiske".toList ∧
      tryStem ⟨.norwegian⟩ "\u212aRİTİSKE" = tryStem ⟨.norwegian⟩ "kritiske" ∧
      tryStem ⟨.norwegian⟩ "kritiske" = .ok "kritisk" := by
  have alike : List.Forall₂ (fun letter same => Text.lower letter = Text.lower same)
      "\u212aRİTİSKE".toList "kritiske".toList := by
    decide +kernel
  exact ⟨alike, (tryStem_ignores_case ⟨.norwegian⟩).1 _ _ alike, by decide +kernel⟩

end Stemming.Stemmer
