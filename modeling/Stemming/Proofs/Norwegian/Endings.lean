import Stemming.Norwegian.Stages
import Stemming.Proofs.Norwegian.Rules
import Stemming.Proofs.Scan.Moves
import Stemming.Proofs.Scan.Region
import Stemming.Proofs.Scan.Rewritten

set_option autoImplicit false

namespace Stemming

namespace Norwegian

variable {ρ : Type} {table : RuleTable Scan ρ} {s : ScanState} {position : Nat}

/-- In a window narrowed to the region the search finds the longest ending of the text behind the
cursor that lies in the region. -/
theorem find_narrowed_eq (sound : table.Sound .backward)
    (plain : ∀ entry ∈ table, entry.condition = none) (ordered : s.WindowInOrder)
    (above : s.windowStart ≤ position) (reaches : position ≤ s.cursor) :
    table.find .backward (s.withBound .backward position) =
      match longestEnding? Entry.pattern table (position - s.windowStart) s.behind with
      | none => .returned none (s.withBound .backward position)
      | some entry => .returned (some entry.result)
          ((s.withBound .backward position).covering .backward s.cursor
            (s.cursor - entry.length)) := by
  have length := ordered.length_behind
  have narrowed : (s.withBound .backward position).WindowInOrder :=
    ⟨reaches, ordered.cursor_le_end, ordered.end_le_length⟩
  have text : (s.withBound .backward position).ahead .backward =
      (s.behind.drop (position - s.windowStart)).reverse := by
    rw [ScanState.behind, List.drop_drop, Nat.add_sub_cancel' above]
    rfl
  rw [sound.find_eq narrowed, text, tryInTurn_of_plain _ _ fun entry member =>
    plain entry (RuleTable.mem_matching.mp member).1, head?_matching sound.sorted (by omega)]
  rfl

/-- The ending that is found lies between the region's start and the cursor, and the slice is put on
it. Nothing is found if the region starts after the cursor. -/
theorem findInRegion_eq (sound : table.Sound .backward)
    (plain : ∀ entry ∈ table, entry.condition = none) (wellFormed : s.WellFormed)
    (marked : s.marks[0]? = some position) (above : s.windowStart ≤ position) :
    findInRegion table s =
      match longestEnding? Entry.pattern table (position - s.windowStart) s.behind with
      | none => .returned none s
      | some entry => .returned (some entry.result)
          (s.covering .backward s.cursor (s.cursor - entry.length)) := by
  have ordered := wellFormed.toWindowInOrder
  have length := ordered.length_behind
  have lower := ordered.start_le_cursor
  have upper := ordered.cursor_le_end
  by_cases reaches : position ≤ s.cursor
  · have within : s.Reaches .backward position := ⟨above, reaches⟩
    have ran := find_narrowed_eq sound plain ordered above reaches
    cases longest : longestEnding? Entry.pattern table (position - s.windowStart) s.behind with
    | none =>
        rw [longest] at ran
        have widened := Scan.within_of_reaches marked within ran wellFormed
        exact widened
    | some entry =>
        rw [longest] at ran
        have fits := (entry_of_longestEnding? longest).2.2
        have widened := Scan.within_of_reaches marked within ran ⟨⟨?_, ?_, ?_⟩, ?_⟩
        · exact widened
        · show s.windowStart ≤ s.cursor - entry.length
          omega
        · show s.cursor - entry.length ≤ s.windowEnd
          omega
        · exact ordered.end_le_length
        · exact wellFormed.marks_le_length
  · have outside : ¬ s.Reaches .backward position := fun within => reaches within.2
    have nothing :
        longestEnding? Entry.pattern table (position - s.windowStart) s.behind = none := by
      rw [longestEnding?_eq_none_iff]
      intro entry _ _
      omega
    rw [nothing]
    exact Scan.within_of_not_reaches marked outside _

theorem findInRegion_of_outside (table : RuleTable Scan ρ)
    (marked : s.marks[0]? = some position) (outside : position < s.windowStart) :
    findInRegion table s = .returned none s := by
  apply Scan.within_of_not_reaches marked
  rintro ⟨above, _⟩
  omega

theorem plain_mainSuffixes : ∀ entry ∈ mainSuffixes, entry.condition = none := by
  simp [mainSuffixes, Entry.plain]

theorem plain_consonantPairs : ∀ entry ∈ consonantPairs, entry.condition = none := by
  simp [consonantPairs, Entry.plain]

theorem plain_otherSuffixes : ∀ entry ∈ otherSuffixes, entry.condition = none := by
  simp [otherSuffixes, Entry.plain]

/-- The second try of `afterSEnding`, in front of a letter: a k after a non-vowel. -/
theorem afterK_eq (ordered : s.WindowInOrder) {letter : Char} {before : List Char}
    (text : s.ahead .backward = letter :: before) :
    ∃ cursor, s.windowStart ≤ cursor ∧ cursor ≤ s.windowEnd ∧
      (do
        if ← Scan.literal .backward ['k'] then Scan.test vowels .backward .outside
        else return false : Scan Bool) s =
        .returned (letter == 'k' && before.head?.any fun other => !isVowel other)
          { s with cursor := cursor } := by
  have upper := ordered.cursor_le_end
  have room := ordered.length_ahead_backward
  have one : 1 ≤ (s.ahead .backward).length := by rw [text]; simp
  have matched := Scan.literal_eq ordered .backward ['k']
  rw [Direction.reading_backward, List.reverse_singleton, text] at matched
  by_cases same : letter = 'k'
  · subst same
    rw [if_pos (by simp)] at matched
    have preceded := Scan.test_eq (ordered.advance .backward one) vowels .backward .outside
    rw [ordered.ahead_advance .backward one, text, List.drop_one, List.tail_cons,
      accepts_vowels_outside] at preceded
    rw [Scan.bind_of_returned matched]
    simp only [↓reduceIte, beq_self_eq_true, Bool.true_and]
    by_cases nonVowel : before.head?.any fun other => !isVowel other
    · have two : 2 ≤ (s.ahead .backward).length := by
        rw [text]
        cases before with
        | nil => simp at nonVowel
        | cons => simp
      rw [if_pos nonVowel] at preceded
      refine ⟨s.cursor - 1 - 1, by omega, by omega, ?_⟩
      rw [nonVowel]
      exact preceded
    · rw [if_neg nonVowel] at preceded
      refine ⟨s.cursor - 1, by omega, by omega, ?_⟩
      rw [Bool.eq_false_of_not_eq_true nonVowel]
      exact preceded
  · have absent : ¬ ['k'] <+: letter :: before := by
      simpa using Ne.symm same
    rw [if_neg absent] at matched
    refine ⟨s.cursor, ordered.start_le_cursor, upper, ?_⟩
    rw [Scan.bind_of_returned matched]
    simp [same]

/-- The letters before a final s are read from all of the window, and only the cursor moves. -/
theorem afterSEnding_eq (ordered : s.WindowInOrder) :
    ∃ cursor, s.windowStart ≤ cursor ∧ cursor ≤ s.windowEnd ∧
      afterSEnding s = .returned (dropsS s.behind) { s with cursor := cursor } := by
  have upper := ordered.cursor_le_end
  have room := ordered.length_ahead_backward
  have tested := Scan.test_eq ordered sEndings .backward .inside
  rw [accepts_sEndings_inside] at tested
  unfold afterSEnding dropsS
  rw [← ScanState.ahead_backward]
  cases text : s.ahead .backward with
  | nil =>
      have matched := Scan.literal_eq ordered .backward ['k']
      rw [text, List.head?_nil, Option.any_none] at tested
      rw [text, if_neg (by simp)] at matched
      refine ⟨s.cursor, ordered.start_le_cursor, upper, ?_⟩
      rw [Scan.bind_of_returned tested]
      exact (Scan.bind_of_returned matched _).trans rfl
  | cons letter before =>
      have one : 1 ≤ (s.ahead .backward).length := by rw [text]; simp
      rw [text, List.head?_cons, Option.any_some] at tested
      by_cases consonant : takesS letter
      · rw [if_pos consonant] at tested
        refine ⟨s.cursor - 1, by omega, by omega, ?_⟩
        rw [Scan.bind_of_returned tested]
        simp only [consonant, Bool.true_or]
        rfl
      · rw [if_neg consonant] at tested
        rw [Scan.bind_of_returned tested]
        simp only [consonant, Bool.false_eq_true, ↓reduceIte, Bool.false_or]
        exact afterK_eq ordered text

theorem endsInPair_of_absent (ordered : s.WindowInOrder)
    (absent : findInRegion consonantPairs s = .returned none s) :
    endsInPair s = .returned false s := by
  have ran : (do return (← findInRegion consonantPairs).isSome : Scan Bool) s =
      .returned false s := by
    rw [Scan.bind_of_returned absent]
    rfl
  exact Scan.probe_of_same_window ordered ran rfl rfl

theorem endsInPair_eq (wellFormed : s.WellFormed) (marked : s.marks[0]? = some position)
    (above : s.windowStart ≤ position) :
    endsInPair s =
      match longestEnding? Entry.pattern consonantPairs (position - s.windowStart) s.behind with
      | none => .returned false s
      | some entry => .returned true
          { s with sliceStart := s.cursor - entry.length, sliceEnd := s.cursor } := by
  have found := findInRegion_eq (RuleTable.sound_of_violation?_eq_none violation?_consonantPairs)
    plain_consonantPairs wellFormed marked above
  have ordered := wellFormed.toWindowInOrder
  cases longest :
      longestEnding? Entry.pattern consonantPairs (position - s.windowStart) s.behind with
  | none =>
      rw [longest] at found
      exact endsInPair_of_absent ordered found
  | some entry =>
      rw [longest] at found
      have ran : (do return (← findInRegion consonantPairs).isSome : Scan Bool) s =
          .returned true (s.covering .backward s.cursor (s.cursor - entry.length)) := by
        rw [Scan.bind_of_returned found]
        rfl
      exact Scan.probe_of_same_window ordered ran rfl rfl

end Norwegian

end Stemming
