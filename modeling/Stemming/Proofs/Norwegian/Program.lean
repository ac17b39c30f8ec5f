import Stemming.Proofs.Norwegian.Regions
import Stemming.Proofs.Norwegian.Stages

set_option autoImplicit false

namespace Stemming.Norwegian

variable {s : ScanState}

/-- The state in which the first backward stage starts. -/
def turned (s : ScanState) : ScanState :=
  match s.mode with
  | .forward => { s with windowStart := s.cursor, cursor := s.windowEnd, mode := .backward }
  | .backward => s

theorem mode_turned (s : ScanState) : (turned s).mode = .backward := by
  unfold turned
  cases mode : s.mode with
  | forward => rfl
  | backward => exact mode

theorem wellFormed_turned (wellFormed : s.WellFormed) : (turned s).WellFormed := by
  unfold turned
  cases s.mode with
  | forward =>
      exact ⟨⟨wellFormed.cursor_le_end, Nat.le_refl _, wellFormed.end_le_length⟩,
        wellFormed.marks_le_length⟩
  | backward => exact wellFormed

theorem marks_turned (s : ScanState) : (turned s).marks = s.marks := by
  unfold turned
  cases s.mode <;> rfl

theorem windowStart_turned_le (ordered : s.WindowInOrder) : (turned s).windowStart ≤ s.cursor := by
  unfold turned
  cases s.mode with
  | forward => exact Nat.le_refl _
  | backward => exact ordered.start_le_cursor

theorem run_turned {stage : Stage} (backward : stage.direction = .backward) :
    stage.run s = stage.run (turned s) := by
  unfold turned
  cases mode : s.mode with
  | forward =>
      unfold Stage.run
      rw [Scan.bind_of_returned (Scan.state_apply s), if_pos ⟨backward, mode⟩]
      rw [Scan.bind_of_returned (Scan.state_apply _), if_neg (by simp)]
      rfl
  | backward => rfl

/-- The program on any state: what becomes of the text behind the cursor of the turned state, with
the region as it was found ahead of the cursor. -/
theorem run_rewrites (wellFormed : s.WellFormed) (marked : 2 ≤ s.marks.length) :
    ∃ marks after, marks.length = s.marks.length ∧
      program.run s = .returned () { after with cursor := after.windowStart, mode := .forward } ∧
      (turned { s with marks := marks }).Rewritten after
        (withoutEndings (s.cursor + regionFrom (s.ahead .forward) -
          (turned { s with marks := marks }).windowStart)
          (turned { s with marks := marks }).behind) := by
  obtain ⟨found, marks, probed, sameLength, first, inWord⟩ := probe_markRegions wellFormed marked
  have marking : Stage.run .markRegions s = .returned () { s with marks := marks } := by
    apply Stage.markRegions.run_of_probe _ probed
    rintro ⟨impossible, _⟩
    cases impossible
  have stateFormed : ({ s with marks := marks } : ScanState).WellFormed :=
    ⟨⟨wellFormed.start_le_cursor, wellFormed.cursor_le_end, wellFormed.end_le_length⟩, inWord⟩
  have above := windowStart_turned_le stateFormed.toWindowInOrder
  obtain ⟨after, ran, rewritten⟩ := forM_run_rewrites
    [.mainSuffix, .consonantPair, .otherSuffix] (by decide)
    (mode_turned { s with marks := marks }) (wellFormed_turned stateFormed)
    (by rw [marks_turned]; exact first) (Nat.le_trans above (Nat.le_add_right _ _))
  have endings : [Stage.mainSuffix, .consonantPair, .otherSuffix].forM Stage.run
      { s with marks := marks } = .returned () after := by
    rw [← ran]
    show (Stage.run .mainSuffix >>= _) _ = (Stage.run .mainSuffix >>= _) _
    rw [Scan.bind_apply, Scan.bind_apply, run_turned rfl]
  refine ⟨marks, after, sameLength, ?_, rewritten⟩
  have all : Stage.all.forM Stage.run s = .returned () after :=
    (Scan.bind_of_returned marking _).trans endings
  exact (Scan.bind_of_returned all _).trans rfl

/-- In forward mode the text ahead of the cursor gives way to its stem. -/
theorem run_of_forward (wellFormed : s.WellFormed) (marked : 2 ≤ s.marks.length)
    (mode : s.mode = .forward) :
    ∃ after, program.run s = .returned () after ∧ after.WellFormed ∧
      after.marks.length = s.marks.length ∧ after.mode = .forward ∧
      after.cursor = s.cursor ∧ after.windowStart = s.cursor ∧
      after.windowEnd = s.cursor + (stemOf (s.ahead .forward)).length ∧
      after.letters =
        s.letters.take s.cursor ++ stemOf (s.ahead .forward) ++ s.letters.drop s.windowEnd := by
  obtain ⟨marks, after, sameLength, ran, rewritten⟩ := run_rewrites wellFormed marked
  have turning : turned { s with marks := marks } = { s with
      windowStart := s.cursor, cursor := s.windowEnd, mode := .backward, marks := marks } := by
    unfold turned
    rw [mode]
  rw [turning] at rewritten
  change ScanState.Rewritten _ after (withoutEndings
    (s.cursor + regionFrom (s.ahead .forward) - s.cursor) (s.ahead .forward)) at rewritten
  rw [Nat.add_sub_cancel_left] at rewritten
  have start : after.windowStart = s.cursor := rewritten.windowStart
  have stop : after.windowEnd =
      s.cursor + (stemOf (s.ahead .forward)).length + (s.windowEnd - s.windowEnd) :=
    rewritten.windowEnd
  refine ⟨_, ran, ⟨⟨Nat.le_refl _, ?_, rewritten.wellFormed.end_le_length⟩,
    rewritten.wellFormed.marks_le_length⟩, rewritten.marked.trans sameLength, rfl, start, start,
    ?_, rewritten.letters⟩
  · show after.windowStart ≤ after.windowEnd
    omega
  · show after.windowEnd = _
    omega

/-- In backward mode the region starts no earlier than the cursor, so no ending is found. -/
theorem run_of_backward (wellFormed : s.WellFormed) (marked : 2 ≤ s.marks.length)
    (mode : s.mode = .backward) :
    ∃ after, program.run s = .returned () after ∧ after.WellFormed ∧
      after.marks.length = s.marks.length ∧ after.mode = .forward ∧
      after.cursor = s.windowStart ∧ after.windowStart = s.windowStart ∧
      after.letters = s.letters := by
  have ordered := wellFormed.toWindowInOrder
  have lower := ordered.start_le_cursor
  have length := ordered.length_behind
  obtain ⟨marks, after, sameLength, ran, rewritten⟩ := run_rewrites wellFormed marked
  have turning : turned { s with marks := marks } = { s with marks := marks } := by
    unfold turned
    rw [mode]
  rw [turning] at rewritten
  change ScanState.Rewritten _ after (withoutEndings
    (s.cursor + regionFrom (s.ahead .forward) - s.windowStart) s.behind) at rewritten
  rw [withoutEndings_of_short (by omega)] at rewritten
  have start : after.windowStart = s.windowStart := rewritten.windowStart
  have stop : after.windowEnd = s.windowStart + s.behind.length + (s.windowEnd - s.cursor) :=
    rewritten.windowEnd
  refine ⟨_, ran, ⟨⟨Nat.le_refl _, ?_, rewritten.wellFormed.end_le_length⟩,
    rewritten.wellFormed.marks_le_length⟩, rewritten.marked.trans sameLength, rfl, start, start,
    rewritten.letters.trans ordered.letters_eq.symm⟩
  show after.windowStart ≤ after.windowEnd
  omega

theorem run_ofWord (word : List Char) :
    ∃ after, program.run (.ofWord word program.markCount) = .returned () after ∧
      after.WellFormed ∧ after.letters = stemOf word := by
  have fresh := ScanState.wellFormed_ofWord word program.markCount
  obtain ⟨after, ran, wellFormed, _, _, _, _, _, letters⟩ :=
    run_of_forward fresh (Nat.le_refl 2) rfl
  refine ⟨after, ran, wellFormed, ?_⟩
  have whole : (ScanState.ofWord word program.markCount).ahead .forward = word :=
    List.take_length
  rw [letters, whole]
  show word.take 0 ++ stemOf word ++ word.drop word.length = stemOf word
  rw [List.take_zero, List.nil_append, List.drop_length, List.append_nil]

theorem execute_of_run {word : List Char} {after : ScanState}
    (ran : program.run (.ofWord word program.markCount) = .returned () after)
    (wellFormed : after.WellFormed) : program.execute word = .ok after.letters := by
  have checked := Scan.checkInvariants_eq wellFormed
  have steps : program.stem (.ofWord word program.markCount) =
      .returned after.letters after := by
    apply (Scan.bind_of_returned ran _).trans
    exact (Scan.bind_of_returned checked _).trans rfl
  rw [RuleProgram.execute, steps]
  rfl

/-- Every word has a stem, and it is the one that the rules for words give. -/
theorem execute_eq_stemOf (word : List Char) : program.execute word = .ok (stemOf word) := by
  obtain ⟨after, ran, wellFormed, letters⟩ := run_ofWord word
  rw [execute_of_run ran wellFormed, letters]

/-- Inside a window the program does in forward mode what it does to the text of the window as a
word of its own. In backward mode it changes no letter. -/
theorem run_stems_window (s : ScanState) (wellFormed : s.WellFormed)
    (marked : 2 ≤ s.marks.length) :
    ∃ after, program.run s = .returned () after ∧
      after.WellFormed ∧ 2 ≤ after.marks.length ∧
      after.mode = .forward ∧ after.cursor = after.windowStart ∧
      (s.mode = .forward → ∃ stem,
        program.execute ((s.letters.take s.windowEnd).drop s.cursor) = .ok stem ∧
        after.letters = s.letters.take s.cursor ++ stem ++ s.letters.drop s.windowEnd ∧
        after.cursor = s.cursor ∧ after.windowStart = s.cursor ∧
        after.windowEnd = s.cursor + stem.length) ∧
      (s.mode = .backward → after.letters = s.letters) := by
  cases mode : s.mode with
  | forward =>
      obtain ⟨after, ran, formed, sameLength, forward, cursor, start, stop, letters⟩ :=
        run_of_forward wellFormed marked mode
      refine ⟨after, ran, formed, by omega, forward, by omega, ?_, by simp⟩
      intro _
      obtain ⟨alone, ranAlone, formedAlone, stem⟩ := run_ofWord (s.ahead .forward)
      refine ⟨stemOf (s.ahead .forward), ?_, letters, cursor, start, stop⟩
      rw [← stem]
      exact execute_of_run ranAlone formedAlone
  | backward =>
      obtain ⟨after, ran, formed, sameLength, forward, cursor, start, letters⟩ :=
        run_of_backward wellFormed marked mode
      exact ⟨after, ran, formed, by omega, forward, by omega, by simp, fun _ => letters⟩

/-- One word in the middle of a text, with a slice out of order and stray marks. -/
theorem run_stems_window_hestene :
    (⟨"de hestene her".toList, 3, 1, 10, 5, 2, [14, 0], .forward⟩ : ScanState).WellFormed ∧
    ∃ after,
      program.run ⟨"de hestene her".toList, 3, 1, 10, 5, 2, [14, 0], .forward⟩ =
        .returned () after ∧
      after.letters = "de hest her".toList ∧ after.windowEnd = 7 := by
  refine ⟨by decide, ?_⟩
  obtain ⟨after, ran, _, _, _, _, forward, _⟩ := run_stems_window
    ⟨"de hestene her".toList, 3, 1, 10, 5, 2, [14, 0], .forward⟩ (by decide) (by decide)
  obtain ⟨stem, executed, letters, _, _, stop⟩ := forward rfl
  have alone : program.execute "hestene".toList = .ok "hest".toList := by decide +kernel
  cases executed.symm.trans alone
  exact ⟨after, ran, letters, stop⟩

end Stemming.Norwegian
