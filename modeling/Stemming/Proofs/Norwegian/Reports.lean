import Stemming.Proofs.Norwegian.Beginnings
import Stemming.Proofs.Norwegian.Regions
import Stemming.Proofs.Norwegian.Stages

set_option autoImplicit false

namespace Stemming

namespace ScanState

/-- The letters from `stop` up to the cursor are gone. -/
structure Cut (s after : ScanState) (stop : Nat) : Prop where
  behind : stop < s.cursor
  letters : after.letters = s.letters.take stop ++ s.letters.drop s.cursor
  windowStart : after.windowStart = s.windowStart
  windowEnd : after.windowEnd + (s.cursor - stop) = s.windowEnd
  mode : after.mode = s.mode

/-- Everything but the cursor and the slice is as it was. -/
structure Unedited (s after : ScanState) : Prop where
  letters : after.letters = s.letters
  windowStart : after.windowStart = s.windowStart
  windowEnd : after.windowEnd = s.windowEnd
  marks : after.marks = s.marks
  mode : after.mode = s.mode

variable {s after : ScanState} {word : List Char} {region stop : Nat}

theorem Cut.length_lt (cut : s.Cut after stop) (ordered : s.WindowInOrder) :
    after.length < s.length := by
  have fits : s.windowEnd ≤ s.letters.length := ordered.end_le_length
  have below := ordered.cursor_le_end
  have before := cut.behind
  show after.letters.length < s.letters.length
  rw [cut.letters, List.length_append, List.length_take, List.length_drop]
  omega

theorem Reported.unedited (reported : s.Reported after false word) (ordered : s.WindowInOrder) :
    s.Unedited after := by
  have above := ordered.start_le_cursor
  have below := ordered.cursor_le_end
  have length := ordered.length_behind
  obtain ⟨same, marks⟩ := reported.kept rfl
  subst same
  refine ⟨reported.letters.trans ordered.letters_eq.symm, reported.windowStart, ?_, marks,
    reported.mode⟩
  rw [reported.windowEnd]
  omega

/-- A text that has become shorter, but is still a beginning of what it was, has lost the letters
just behind the cursor. -/
theorem Reported.cut (reported : s.Reported after true word) (ordered : s.WindowInOrder)
    (trimmed : Norwegian.Trimmed (region - s.windowStart) s.behind word) :
    ∃ stop, region ≤ stop ∧ s.Cut after stop := by
  have above := ordered.start_le_cursor
  have below := ordered.cursor_le_end
  have length := ordered.length_behind
  have shorter := reported.shorter rfl
  have kept := trimmed.region
  have before : s.windowStart + word.length < s.cursor := by omega
  refine ⟨s.windowStart + word.length, by omega, before, ?_, reported.windowStart, ?_,
    reported.mode⟩
  · have left := take_eq_append_behind (Nat.le_add_right s.windowStart word.length)
      (Nat.le_of_lt before)
    rw [Nat.add_sub_cancel_left, ← trimmed.eq_take] at left
    rw [reported.letters, left]
  · rw [reported.windowEnd]
    omega

end ScanState

namespace Norwegian

variable {s : ScanState} {region : Nat}

theorem Stage.direction_eq_backward_iff (stage : Stage) :
    stage.direction = .backward ↔ stage ≠ .markRegions := by
  cases stage <;> simp [direction]

theorem Stage.trimmed_rewrite (stage : Stage) (start : Nat) (word : List Char) :
    Trimmed start word (stage.rewrite start word) := by
  cases stage with
  | markRegions => exact .refl start word
  | mainSuffix => exact trimmed_withoutMainSuffix start word
  | consonantPair => exact trimmed_withoutPairEnd start word
  | otherSuffix => exact trimmed_withoutOtherSuffix start word

theorem Stage.apply_of_outside (stage : Stage) (backward : stage.direction = .backward)
    (ordered : s.WindowInOrder) (marked : s.marks[0]? = some region)
    (outside : region < s.windowStart) : stage.apply s = .returned false s := by
  cases stage with
  | markRegions => cases backward
  | mainSuffix =>
      exact Scan.bind_of_returned (findInRegion_of_outside mainSuffixes marked outside) _
  | consonantPair =>
      have absent := findInRegion_of_outside consonantPairs marked outside
      exact Scan.bind_of_returned (endsInPair_of_absent ordered absent) _
  | otherSuffix =>
      exact Scan.bind_of_returned (findInRegion_of_outside otherSuffixes marked outside) _

theorem Stage.apply_cuts (stage : Stage) (backward : stage.direction = .backward)
    (wellFormed : s.WellFormed) (marked : s.marks[0]? = some region) :
    ∃ applied after, stage.apply s = .returned applied after ∧ after.WellFormed ∧
      after.marks.length = s.marks.length ∧
      (applied = true → after.marks[0]? = some region ∧
        ∃ stop, region ≤ stop ∧ s.Cut after stop) ∧
      (applied = false → s.Unedited after) := by
  have ordered := wellFormed.toWindowInOrder
  -- The rules for words count from the window's start, so they say nothing of a region before it.
  by_cases outside : region < s.windowStart
  · exact ⟨false, s, stage.apply_of_outside backward ordered marked outside, wellFormed, rfl,
      by simp, fun _ => ⟨rfl, rfl, rfl, rfl, rfl⟩⟩
  · obtain ⟨applied, after, ran, reported⟩ :=
      stage.apply_reports backward wellFormed marked (by omega)
    refine ⟨applied, after, ran, reported.wellFormed, reported.marked, ?_, ?_⟩
    · rintro rfl
      exact ⟨reported.firstMark.trans marked,
        reported.cut ordered (stage.trimmed_rewrite _ s.behind)⟩
    · rintro rfl
      exact reported.unedited ordered

/-- From any well-formed state a stage returns and leaves a well-formed state. The first stage
changes no letter. The others say whether they made the word shorter, and do so only by taking off
letters of the region just behind the cursor. -/
theorem Stage.apply_shortens_or_keeps (stage : Stage) (s : ScanState)
    (wellFormed : s.WellFormed) (marked : 2 ≤ s.marks.length) :
    ∃ applied after, stage.apply s = .returned applied after ∧ after.WellFormed ∧
      after.marks.length = s.marks.length ∧
      (stage = .markRegions → after.letters = s.letters) ∧
      (stage ≠ .markRegions →
        (applied = true ↔ after.length < s.length) ∧
        (applied = true → ∃ region stop,
          s.marks[regionStart.index]? = some region ∧
          after.marks[regionStart.index]? = some region ∧
          region ≤ stop ∧ s.Cut after stop) ∧
        (applied = false → s.Unedited after)) := by
  by_cases first : stage = .markRegions
  · subst first
    obtain ⟨found, cursor, marks, ran, above, below, sameLength, _, inWord⟩ :=
      markRegions_marks wellFormed marked
    exact ⟨found, _, ran, ⟨⟨above, below, wellFormed.end_le_length⟩, inWord⟩, sameLength,
      fun _ => rfl, fun other => absurd rfl other⟩
  · have region : s.marks[0]? = some s.marks[0] := List.getElem?_eq_getElem (by omega)
    obtain ⟨applied, after, ran, formed, sameLength, cuts, keeps⟩ :=
      stage.apply_cuts (stage.direction_eq_backward_iff.mpr first) wellFormed region
    refine ⟨applied, after, ran, formed, sameLength, fun same => absurd same first,
      fun _ => ⟨⟨?_, ?_⟩, ?_, keeps⟩⟩
    · intro fired
      obtain ⟨_, stop, _, cut⟩ := cuts fired
      exact cut.length_lt wellFormed.toWindowInOrder
    · intro shorter
      apply Bool.of_not_eq_false
      intro idle
      have same : after.length = s.length := congrArg List.length (keeps idle).letters
      omega
    · intro fired
      obtain ⟨firstMark, stop, inRegion, cut⟩ := cuts fired
      exact ⟨s.marks[0], stop, region, firstMark, inRegion, cut⟩

/-- A replacement in the middle of a text, with the second mark inside the ending. -/
theorem Stage.apply_shortens_or_keeps_lyserte :
    (⟨"lyserte her".toList, 7, 0, 9, 8, 2, [3, 6], .backward⟩ : ScanState).WellFormed ∧
    ∃ after, Stage.mainSuffix.apply
        ⟨"lyserte her".toList, 7, 0, 9, 8, 2, [3, 6], .backward⟩ = .returned true after ∧
      after.WellFormed ∧ after.letters = "lyser her".toList ∧
      ∃ stop, 3 ≤ stop ∧
        ScanState.Cut ⟨"lyserte her".toList, 7, 0, 9, 8, 2, [3, 6], .backward⟩ after stop := by
  refine ⟨by decide, ?_⟩
  obtain ⟨applied, after, ran, formed, _, _, reports⟩ := Stage.apply_shortens_or_keeps .mainSuffix
    ⟨"lyserte her".toList, 7, 0, 9, 8, 2, [3, 6], .backward⟩ (by decide) (by decide)
  have evaluated : Stage.mainSuffix.apply
      ⟨"lyserte her".toList, 7, 0, 9, 8, 2, [3, 6], .backward⟩ =
      .returned true ⟨"lyser her".toList, 3, 0, 7, 3, 5, [3, 3], .backward⟩ := by decide +kernel
  cases ran.symm.trans evaluated
  obtain ⟨_, stop, first, _, inRegion, cut⟩ := (reports (by decide)).2.1 rfl
  cases first
  exact ⟨_, evaluated, formed, rfl, stop, inRegion, cut⟩

end Norwegian

end Stemming
