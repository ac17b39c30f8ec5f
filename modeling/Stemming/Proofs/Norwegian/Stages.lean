import Stemming.Proofs.Norwegian.Endings

set_option autoImplicit false

namespace Stemming.Norwegian

section

variable {s : ScanState} {position : Nat}

theorem behind_covering (ordered : s.WindowInOrder) {count : Nat}
    (fits : s.windowStart + count ≤ s.cursor) :
    (s.covering .backward s.cursor (s.cursor - count)).behind = without count s.behind := by
  have length := ordered.length_behind
  rw [without, length]
  show (s.letters.take (s.cursor - count)).drop s.windowStart = _
  rw [ScanState.behind, List.take_drop, List.take_take]
  congr 2
  omega

theorem replaceSlice_reports (wellFormed : s.WellFormed) (marked : s.marks[0]? = some position)
    (above : s.windowStart ≤ position) {cursor count : Nat} (lower : s.windowStart ≤ cursor)
    (upper : cursor ≤ s.windowEnd) (fits : position + count ≤ s.cursor) (text : List Char)
    (shorter : text.length < count) :
    ∃ after,
      Scan.replaceSlice text { s with
        cursor := cursor, sliceStart := s.cursor - count, sliceEnd := s.cursor } =
        .returned () after ∧
      s.Reported after true (without count s.behind ++ text) := by
  have length := wellFormed.length_behind
  have start : s.cursor - count - s.windowStart = s.behind.length - count := by omega
  refine ⟨_, Scan.replaceSlice_eq ⟨?_, ?_, ?_⟩ text, ?_, ?_, by simp⟩
  · show s.cursor - count ≤ s.cursor
    omega
  · exact wellFormed.cursor_le_end
  · exact wellFormed.end_le_length
  · rw [without, ← start]
    exact wellFormed.rewritten_replaced lower upper marked above (by omega) text (by omega)
  · rw [List.length_append, length_without]
    omega

/-- An effect replaces a slice that is longer than what comes in its place. -/
theorem applyEffect_reports (wellFormed : s.WellFormed) (marked : s.marks[0]? = some position)
    (above : s.windowStart ≤ position) (effect : Effect) {count : Nat}
    (fits : position + count ≤ s.cursor) (nonempty : 0 < count)
    (longer : effect = .replaceWithEr → 2 < count) :
    ∃ applied after,
      applyEffect effect (s.covering .backward s.cursor (s.cursor - count)) =
        .returned applied after ∧
      s.Reported after applied (afterEffect effect count s.behind) := by
  have ordered := wellFormed.toWindowInOrder
  have upper := ordered.cursor_le_end
  have inside : s.windowStart ≤ s.cursor - count := by omega
  have below : s.cursor - count ≤ s.windowEnd := by omega
  cases effect with
  | delete =>
      obtain ⟨after, deleted, reported⟩ := replaceSlice_reports wellFormed marked above
        inside below fits [] nonempty
      rw [List.append_nil] at reported
      exact ⟨true, after, (Scan.bind_of_returned deleted _).trans rfl, reported⟩
  | replaceWithEr =>
      obtain ⟨after, replaced, reported⟩ := replaceSlice_reports wellFormed marked above
        inside below fits ['e', 'r'] (longer rfl)
      exact ⟨true, after, (Scan.bind_of_returned replaced _).trans rfl, reported⟩
  | deleteAfterSEnding =>
      have covering : (s.covering .backward s.cursor (s.cursor - count)).WindowInOrder :=
        ⟨inside, below, ordered.end_le_length⟩
      obtain ⟨cursor, lower, notBeyond, asked⟩ := afterSEnding_eq covering
      rw [behind_covering ordered (by omega)] at asked
      unfold afterEffect
      by_cases drops : dropsS (without count s.behind)
      · obtain ⟨after, deleted, reported⟩ := replaceSlice_reports wellFormed marked above
          lower notBeyond fits [] nonempty
        rw [List.append_nil] at reported
        rw [drops] at asked
        simp only [drops, ↓reduceIte]
        refine ⟨true, after, ?_, reported⟩
        exact (Scan.bind_of_returned asked _).trans (Scan.bind_of_returned deleted _)
      · rw [Bool.eq_false_of_not_eq_true drops] at asked
        simp only [drops]
        exact ⟨false, _, Scan.bind_of_returned asked _,
          wellFormed.reported lower notBeyond (s.cursor - count) s.cursor⟩

theorem mainSuffix_reports (wellFormed : s.WellFormed) (marked : s.marks[0]? = some position)
    (above : s.windowStart ≤ position) :
    ∃ applied after, mainSuffix s = .returned applied after ∧
      s.Reported after applied (withoutMainSuffix (position - s.windowStart) s.behind) := by
  have ordered := wellFormed.toWindowInOrder
  have length := ordered.length_behind
  have lower := ordered.start_le_cursor
  have found := findInRegion_eq (RuleTable.sound_of_violation?_eq_none violation?_mainSuffixes)
    plain_mainSuffixes wellFormed marked above
  rw [withoutMainSuffix_eq]
  unfold mainSuffix
  cases longest : longestEnding? Entry.pattern mainSuffixes (position - s.windowStart) s.behind with
  | none =>
      rw [longest] at found
      refine ⟨false, s, ?_, wellFormed.reported lower ordered.cursor_le_end _ _⟩
      rw [Scan.bind_of_returned found]
      rfl
  | some ending =>
      rw [longest] at found
      obtain ⟨member, ends, fits⟩ := entry_of_longestEnding? longest
      obtain ⟨nonempty, longer⟩ := length_mainSuffixes ending member
      rw [Scan.bind_of_returned found]
      exact applyEffect_reports wellFormed marked above ending.result (by omega) nonempty longer

theorem consonantPair_reports (wellFormed : s.WellFormed) (marked : s.marks[0]? = some position)
    (above : s.windowStart ≤ position) :
    ∃ applied after, consonantPair s = .returned applied after ∧
      s.Reported after applied (withoutPairEnd (position - s.windowStart) s.behind) := by
  have ordered := wellFormed.toWindowInOrder
  have length := ordered.length_behind
  have lower := ordered.start_le_cursor
  have upper := ordered.cursor_le_end
  have asked := endsInPair_eq wellFormed marked above
  have pair := longestEnding?_consonantPairs_isSome (position - s.windowStart) s.behind
  unfold consonantPair withoutPairEnd
  cases longest :
      longestEnding? Entry.pattern consonantPairs (position - s.windowStart) s.behind with
  | none =>
      rw [longest] at asked pair
      have absent : ¬ (position - s.windowStart + 2 ≤ s.behind.length ∧
          (['d', 't'] <:+ s.behind ∨ ['v', 't'] <:+ s.behind)) := by
        intro ends
        cases pair.mpr ends
      rw [Scan.bind_of_returned asked, if_neg absent]
      exact ⟨false, s, rfl, wellFormed.reported lower upper _ _⟩
  | some entry =>
      rw [longest] at asked pair
      have ends := pair.mp rfl
      have held : ({ s with sliceStart := s.cursor - entry.length, sliceEnd := s.cursor } :
          ScanState).WindowInOrder := ⟨lower, upper, ordered.end_le_length⟩
      have stepped := Scan.hop_eq held .backward 1
      rw [held.length_ahead_backward, if_pos (by simp only; omega)] at stepped
      obtain ⟨after, deleted, reported⟩ := replaceSlice_reports wellFormed marked above
        (show s.windowStart ≤ s.cursor - 1 by omega) (by omega)
        (show position + 1 ≤ s.cursor by omega) [] Nat.one_pos
      rw [if_pos ends, List.dropLast_eq_take]
      rw [List.append_nil] at reported
      refine ⟨true, after, ?_, reported⟩
      rw [Scan.bind_of_returned asked]
      apply (Scan.bind_of_returned stepped _).trans
      exact (Scan.bind_of_returned deleted _).trans rfl

theorem otherSuffix_reports (wellFormed : s.WellFormed) (marked : s.marks[0]? = some position)
    (above : s.windowStart ≤ position) :
    ∃ applied after, otherSuffix s = .returned applied after ∧
      s.Reported after applied (withoutOtherSuffix (position - s.windowStart) s.behind) := by
  have ordered := wellFormed.toWindowInOrder
  have length := ordered.length_behind
  have lower := ordered.start_le_cursor
  have upper := ordered.cursor_le_end
  have found := findInRegion_eq (RuleTable.sound_of_violation?_eq_none violation?_otherSuffixes)
    plain_otherSuffixes wellFormed marked above
  rw [withoutOtherSuffix_eq]
  unfold otherSuffix
  cases longest :
      longestEnding? Entry.pattern otherSuffixes (position - s.windowStart) s.behind with
  | none =>
      rw [longest] at found
      rw [Scan.bind_of_returned found]
      exact ⟨false, s, rfl, wellFormed.reported lower upper _ _⟩
  | some ending =>
      rw [longest] at found
      obtain ⟨member, ends, fits⟩ := entry_of_longestEnding? longest
      have nonempty := length_otherSuffixes ending member
      obtain ⟨after, deleted, reported⟩ := replaceSlice_reports wellFormed marked above
        (show s.windowStart ≤ s.cursor - ending.length by omega) (by omega) (by omega) [] nonempty
      rw [List.append_nil] at reported
      refine ⟨true, after, ?_, reported⟩
      rw [Scan.bind_of_returned found]
      exact (Scan.bind_of_returned deleted _).trans rfl

/-- What a stage makes of a word whose region starts at `start`. -/
def Stage.rewrite : Stage → Nat → List Char → List Char
  | .markRegions, _, word => word
  | .mainSuffix, start, word => withoutMainSuffix start word
  | .consonantPair, start, word => withoutPairEnd start word
  | .otherSuffix, start, word => withoutOtherSuffix start word

theorem Stage.apply_reports (stage : Stage) (backward : stage.direction = .backward)
    (wellFormed : s.WellFormed) (marked : s.marks[0]? = some position)
    (above : s.windowStart ≤ position) :
    ∃ applied after, stage.apply s = .returned applied after ∧
      s.Reported after applied (stage.rewrite (position - s.windowStart) s.behind) := by
  cases stage with
  | markRegions => cases backward
  | mainSuffix => exact mainSuffix_reports wellFormed marked above
  | consonantPair => exact consonantPair_reports wellFormed marked above
  | otherSuffix => exact otherSuffix_reports wellFormed marked above

theorem Stage.run_of_probe (stage : Stage) {applied : Bool} {after : ScanState}
    (ready : ¬ (stage.direction = .backward ∧ s.mode = .forward))
    (probed : Scan.probe stage.apply s = .returned applied after) :
    stage.run s = .returned () after := by
  unfold run
  rw [Scan.bind_of_returned (Scan.state_apply s), if_neg ready]
  exact (Scan.bind_of_returned probed _).trans rfl

/-- In backward mode a stage ends with the cursor just behind the text that it has rewritten. -/
theorem Stage.run_rewrites (stage : Stage) (backward : stage.direction = .backward)
    (mode : s.mode = .backward) (wellFormed : s.WellFormed)
    (marked : s.marks[0]? = some position) (above : s.windowStart ≤ position) :
    ∃ after, stage.run s = .returned () after ∧
      s.Rewritten after (stage.rewrite (position - s.windowStart) s.behind) ∧
      after.cursor =
        s.windowStart + (stage.rewrite (position - s.windowStart) s.behind).length := by
  obtain ⟨applied, after, ran, reported⟩ :=
    stage.apply_reports backward wellFormed marked above
  have rewritten := reported.toRewritten
  have start := rewritten.windowStart
  have stop := rewritten.windowEnd
  have probed := Scan.probe_of_backward mode wellFormed.cursor_le_end ran (by omega)
  have ready : ¬ (stage.direction = .backward ∧ s.mode = .forward) := by
    rw [mode]
    rintro ⟨_, impossible⟩
    cases impossible
  refine ⟨_, stage.run_of_probe ready probed, rewritten.withCursor ?_ ?_, ?_⟩
  · omega
  · omega
  · show after.windowEnd - (s.windowEnd - s.cursor) = _
    omega

/-- The rewritings of stages that run one after another follow each other in the same place, and all
of them see the region as the first one did. -/
theorem forM_run_rewrites (stages : List Stage)
    (backward : ∀ stage ∈ stages, stage.direction = .backward) {s : ScanState}
    (mode : s.mode = .backward) (wellFormed : s.WellFormed)
    (marked : s.marks[0]? = some position) (above : s.windowStart ≤ position) :
    ∃ after, stages.forM Stage.run s = .returned () after ∧
      s.Rewritten after
        (stages.foldl (fun word stage => stage.rewrite (position - s.windowStart) word)
          s.behind) := by
  induction stages generalizing s with
  | nil =>
      exact ⟨s, rfl, wellFormed.rewritten wellFormed.start_le_cursor wellFormed.cursor_le_end _ _⟩
  | cons stage stages ih =>
      obtain ⟨first, ran, rewritten, atEnd⟩ := stage.run_rewrites
        (backward stage List.mem_cons_self) mode wellFormed marked above
      have start := rewritten.windowStart
      obtain ⟨last, others, further⟩ := ih
        (fun other member => backward other (List.mem_cons_of_mem stage member))
        (rewritten.mode.trans mode) rewritten.wellFormed
        (rewritten.firstMark.trans marked) (by omega)
      rw [rewritten.behind_eq wellFormed.toWindowInOrder atEnd, start] at further
      refine ⟨last, ?_, rewritten.trans wellFormed.toWindowInOrder atEnd further⟩
      exact (Scan.bind_of_returned ran _).trans others

end

end Stemming.Norwegian
