import Stemming.Proofs.Norwegian.Rules

set_option autoImplicit false

namespace Stemming

namespace Norwegian

/-- What is left of a word from which letters were taken off at its end, none of them before
`start`. -/
structure Trimmed (start : Nat) (word rest : List Char) : Prop where
  begins : rest <+: word
  region : min start word.length ≤ rest.length

section

variable {start : Nat} {word rest last : List Char}

theorem Trimmed.refl (start : Nat) (word : List Char) : Trimmed start word word :=
  ⟨List.prefix_refl word, Nat.min_le_right _ _⟩

theorem Trimmed.trans (first : Trimmed start word rest) (second : Trimmed start rest last) :
    Trimmed start word last where
  begins := second.begins.trans first.begins
  region := by
    have outer := first.region
    have inner := second.region
    omega

theorem Trimmed.eq_take (trimmed : Trimmed start word rest) : rest = word.take rest.length :=
  List.prefix_iff_eq_take.mp trimmed.begins

theorem Trimmed.take_eq (trimmed : Trimmed start word rest) {place : Nat}
    (kept : min place word.length ≤ rest.length) : rest.take place = word.take place := by
  have short := trimmed.begins.length_le
  rw [trimmed.eq_take, List.take_take, List.take_eq_take_iff]
  omega

theorem trimmed_without {count : Nat} (fits : start + count ≤ word.length) :
    Trimmed start word (without count word) where
  begins := List.take_prefix _ word
  region := by
    rw [length_without]
    omega

/-- The letters that come in place of an ending are the ones with which it begins. -/
theorem trimmed_without_append {ending kept : List Char} (ends : ending <:+ word)
    (fits : start + ending.length ≤ word.length) (begins : kept <+: ending) :
    Trimmed start word (without ending.length word ++ kept) where
  begins := by
    have whole : without ending.length word ++ ending = word := List.suffix_iff_eq_append.mp ends
    have inner := (List.prefix_append_right_inj (without ending.length word)).mpr begins
    rwa [whole] at inner
  region := by
    rw [List.length_append, length_without]
    omega

theorem trimmed_withoutMainSuffix (start : Nat) (word : List Char) :
    Trimmed start word (withoutMainSuffix start word) := by
  unfold withoutMainSuffix
  cases longest : longestEnding? String.toList inflections start word with
  | none => exact .refl start word
  | some ending =>
      obtain ⟨_, ends, fits⟩ := mem_of_longestEnding? longest
      have shorter := trimmed_without fits
      simp only
      split
      · split
        · exact shorter
        · exact .refl start word
      · split
        · next replaced =>
          apply trimmed_without_append ends fits
          rcases replaced with same | same <;> rw [same] <;> decide
        · exact shorter

theorem trimmed_withoutPairEnd (start : Nat) (word : List Char) :
    Trimmed start word (withoutPairEnd start word) := by
  unfold withoutPairEnd
  split
  · next pair =>
    rw [List.dropLast_eq_take]
    exact trimmed_without (by omega)
  · exact .refl start word

theorem trimmed_withoutOtherSuffix (start : Nat) (word : List Char) :
    Trimmed start word (withoutOtherSuffix start word) := by
  unfold withoutOtherSuffix
  cases longest : longestEnding? String.toList derivations start word with
  | none => exact .refl start word
  | some ending => exact trimmed_without (mem_of_longestEnding? longest).2.2

theorem trimmed_withoutEndings (start : Nat) (word : List Char) :
    Trimmed start word (withoutEndings start word) :=
  ((trimmed_withoutMainSuffix start word).trans (trimmed_withoutPairEnd start _)).trans
    (trimmed_withoutOtherSuffix start _)

theorem trimmed_stemOf (word : List Char) : Trimmed (regionFrom word) word (stemOf word) :=
  trimmed_withoutEndings (regionFrom word) word

/-- The region leaves out the first three letters, or all letters of a shorter word. -/
theorem min_three_le_regionFrom (word : List Char) : min 3 word.length ≤ regionFrom word := by
  unfold regionFrom
  split
  · exact Nat.min_le_right _ _
  · split <;> omega

end

end Norwegian

end Stemming
