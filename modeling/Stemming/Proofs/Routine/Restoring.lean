import Stemming.Proofs.Routine.Operations

set_option autoImplicit false

namespace Stemming

def Outcome.state? {α : Type} : Outcome α → Option ScanState
  | .returned _ after => some after
  | .faulted _ after => some after
  | .trapped _ => none

theorem Outcome.Leaves.of_state? {α : Type} {outcome : Outcome α} {property : ScanState → Prop}
    (leaves : outcome.Leaves property) {after : ScanState} (left : outcome.state? = some after) :
    property after := by
  cases outcome with
  | returned value last =>
      cases left
      exact leaves
  | faulted violation last =>
      cases left
      exact leaves
  | trapped trap => cases left

namespace ScanState

/-- The letters of the word beyond the end of the window in `direction`. -/
def beyond (s : ScanState) : Direction → List Char
  | .forward => s.letters.drop s.windowEnd
  | .backward => s.letters.take s.windowStart

/-- Work that stays inside the window: the cursor moves in it, the slice may be put anywhere, and
the edits replace letters in the window as it is at the time. -/
inductive Confined (s : ScanState) : ScanState → Prop where
  | none : s.Confined s
  | moved {after : ScanState} (earlier : s.Confined after) {cursor : Nat}
      (above : after.windowStart ≤ cursor) (below : cursor ≤ after.windowEnd) :
      s.Confined { after with cursor := cursor }
  | sliced {after : ScanState} (earlier : s.Confined after) (sliceStart sliceEnd : Nat) :
      s.Confined { after with sliceStart := sliceStart, sliceEnd := sliceEnd }
  | edited {after last : ScanState} (earlier : s.Confined after) (edit : Edit)
      (above : after.windowStart ≤ edit.start after) (below : edit.stop after ≤ after.windowEnd)
      (ran : edit.action after = .returned () last) : s.Confined last

/-- What confined work keeps: the state is well-formed, and the text on both sides of the window
is what it was. -/
structure Enclosed (s after : ScanState) : Prop where
  wellFormed : after.WellFormed
  start : s.windowStart ≤ after.windowStart
  below : after.letters.take s.windowStart = s.beyond .backward
  above : after.beyond .forward = s.beyond .forward

variable {s after last : ScanState}

theorem WellFormed.enclosed_self (wellFormed : s.WellFormed) : s.Enclosed s :=
  ⟨wellFormed, Nat.le_refl _, rfl, rfl⟩

theorem Enclosed.moved (enclosed : s.Enclosed after) {cursor : Nat}
    (above : after.windowStart ≤ cursor) (below : cursor ≤ after.windowEnd) :
    s.Enclosed { after with cursor := cursor } :=
  { enclosed with
    wellFormed := ⟨⟨above, below, enclosed.wellFormed.end_le_length⟩,
      enclosed.wellFormed.marks_le_length⟩ }

theorem Enclosed.sliced (enclosed : s.Enclosed after) (sliceStart sliceEnd : Nat) :
    s.Enclosed { after with sliceStart := sliceStart, sliceEnd := sliceEnd } :=
  { enclosed with
    wellFormed := ⟨⟨enclosed.wellFormed.start_le_cursor, enclosed.wellFormed.cursor_le_end,
      enclosed.wellFormed.end_le_length⟩, enclosed.wellFormed.marks_le_length⟩ }

/-- An edit inside the window moves the end of the window with the text behind it, and leaves the
text before the window in place. -/
theorem Enclosed.replaced (enclosed : s.Enclosed after) {start stop : Nat} (text : List Char)
    (spans : start ≤ stop) (above : after.windowStart ≤ start) (below : stop ≤ after.windowEnd) :
    s.Enclosed (after.replaced start stop text) where
  wellFormed := enclosed.wellFormed.replaced text spans
    (Nat.le_trans below enclosed.wellFormed.end_le_length)
  start := by
    have lower := enclosed.start
    show s.windowStart ≤ shifted start stop text.length after.windowStart
    -- an insertion just at the start of the window moves that start up
    by_cases atStop : stop ≤ after.windowStart
    · rw [shifted_of_stop_le atStop]
      omega
    · rw [shifted_of_le_start above (by omega)]
      exact lower
  below := by
    have fits := enclosed.wellFormed.end_le_length
    rw [take_replaced text (Nat.le_trans enclosed.start above) (by omega)]
    exact enclosed.below
  above :=
    (drop_replaced text spans (Nat.le_trans below enclosed.wellFormed.end_le_length) below).trans
      enclosed.above

/-- Any amount of confined work keeps what each step of it keeps. -/
theorem Confined.enclosed (confined : s.Confined after) (wellFormed : s.WellFormed) :
    s.Enclosed after := by
  induction confined with
  | none => exact wellFormed.enclosed_self
  | moved earlier above below ih => exact ih.moved above below
  | sliced earlier sliceStart sliceEnd ih => exact ih.sliced sliceStart sliceEnd
  | edited earlier edit above below ran ih =>
      obtain ⟨fits, rfl⟩ := Edit.action_returned_iff.mp ran
      exact ih.replaced edit.text fits.spans.1 above below

theorem Enclosed.start_fits {position : Nat} (reaches : s.Reaches .backward position)
    (enclosed : (s.withBound .backward position).Enclosed after) :
    (after.withBound .backward s.windowStart).WindowInOrder ∧
      (after.withBound .backward s.windowStart).beyond .backward = s.beyond .backward := by
  have lower : position ≤ after.windowStart := enclosed.start
  have same : after.letters.take position = s.letters.take position := enclosed.below
  have inOrder := enclosed.wellFormed
  have outer := reaches.1
  refine ⟨⟨?_, inOrder.cursor_le_end, inOrder.end_le_length⟩, ?_⟩
  · show s.windowStart ≤ after.cursor
    exact Nat.le_trans (Nat.le_trans outer lower) inOrder.start_le_cursor
  · show after.letters.take s.windowStart = s.letters.take s.windowStart
    rw [← Nat.min_eq_left outer, ← List.take_take, same, List.take_take]

/-- The end of the window fits again after confined work below it, and has the same text behind it,
just if the word is as long as it was. -/
theorem Enclosed.end_fits_iff {position : Nat} (wellFormed : s.WellFormed)
    (reaches : s.Reaches .forward position)
    (enclosed : (s.withBound .forward position).Enclosed after) :
    (after.withBound .forward s.windowEnd).WindowInOrder ∧
        (after.withBound .forward s.windowEnd).beyond .forward = s.beyond .forward ↔
      after.length = s.length := by
  have same : after.letters.drop after.windowEnd = s.letters.drop position := enclosed.above
  have fits : s.windowEnd ≤ s.letters.length := wellFormed.end_le_length
  have inOrder := enclosed.wellFormed
  have below := inOrder.cursor_le_end
  have afterFits : after.windowEnd ≤ after.letters.length := inOrder.end_le_length
  have outer := reaches.2
  constructor
  · rintro ⟨ordered, kept⟩
    have restored : s.windowEnd ≤ after.letters.length := ordered.end_le_length
    have lengths : (after.letters.drop s.windowEnd).length =
        (s.letters.drop s.windowEnd).length := congrArg List.length kept
    rw [List.length_drop, List.length_drop] at lengths
    show after.letters.length = s.letters.length
    omega
  · intro kept
    have size : after.letters.length = s.letters.length := kept
    have lengths := congrArg List.length same
    rw [List.length_drop, List.length_drop] at lengths
    -- the text behind the window is what it was, so the window ends where it was narrowed to
    have back : after.windowEnd = position := by omega
    refine ⟨⟨inOrder.start_le_cursor, ?_, ?_⟩, ?_⟩
    · show after.cursor ≤ s.windowEnd
      omega
    · show s.windowEnd ≤ after.letters.length
      omega
    · show after.letters.drop s.windowEnd = s.letters.drop s.windowEnd
      rw [← Nat.add_sub_cancel' outer, ← List.drop_drop, ← List.drop_drop, ← same, back]

end ScanState

namespace Scan

variable {α : Type} {s inner after : ScanState} {mark : Mark} {direction : Direction}
  {bound : Bound}

theorem reaches_of_narrow (narrowed : narrow mark direction s = .returned (some bound) inner) :
    ∃ position, s.Reaches direction position ∧ bound = ⟨direction, s.bound direction⟩ ∧
      inner = s.withBound direction position := by
  cases found : s.marks[mark.index]? with
  | none =>
      rw [narrow_of_absent (List.getElem?_eq_none_iff.mp found)] at narrowed
      cases narrowed
  | some position =>
      by_cases reaches : s.Reaches direction position
      · rw [narrow_of_reaches found reaches] at narrowed
        obtain ⟨same, rfl⟩ := Outcome.returned.inj narrowed
        exact ⟨position, reaches, (Option.some.inj same).symm, rfl⟩
      · rw [narrow_of_not_reaches found reaches] at narrowed
        cases narrowed

theorem widen_eq_ite (marks : ∀ value ∈ s.marks, value ≤ s.length) (bound : Bound) :
    widen bound s =
      if (s.withBound bound.direction bound.position).WindowInOrder then
        .returned () (s.withBound bound.direction bound.position)
      else
        .faulted ((s.withBound bound.direction bound.position).cursorViolation s.cursor)
          (s.withBound bound.direction bound.position) := by
  split
  · next ordered => exact widen_eq ⟨ordered, by cases bound.direction <;> exact marks⟩
  · next disordered =>
    rw [widen, bind_of_returned (update_apply _ s)]
    simp only [checkInvariants, ScanState.violation?, if_neg disordered]
    cases bound.direction <;> rfl

theorem within_of_narrowed {body : Scan (Option α)} {value : Option α}
    (narrowed : narrow mark direction s = .returned (some bound) inner)
    (ran : body inner = .returned value after) :
    within mark direction body s = (widen bound >>= fun _ => pure value) after := by
  rw [within_eq, bind_of_returned narrowed]
  simp only [bind_of_returned ran]

/-- Confined work in a narrowed window gives its answer, and the window ends again where the text
beyond its end is what it was, just if the window was narrowed from below or the work has left the
word as long as it was. -/
theorem within_keeps_beyond_iff {body : Scan (Option α)} {value : Option α}
    (wellFormed : s.WellFormed) (narrowed : narrow mark direction s = .returned (some bound) inner)
    (ran : body inner = .returned value after) (confined : inner.Confined after) :
    (∃ final, within mark direction body s = .returned value final ∧
        final.beyond direction = s.beyond direction) ↔
      direction = .backward ∨ after.length = s.length := by
  obtain ⟨position, reaches, rfl, rfl⟩ := reaches_of_narrow narrowed
  have enclosed := confined.enclosed (wellFormed.withBound reaches)
  have ended := widen_eq_ite enclosed.wellFormed.marks_le_length ⟨direction, s.bound direction⟩
  have fits : (∃ final, within mark direction body s = .returned value final ∧
        final.beyond direction = s.beyond direction) ↔
      (after.withBound direction (s.bound direction)).WindowInOrder ∧
        (after.withBound direction (s.bound direction)).beyond direction = s.beyond direction := by
    rw [within_of_narrowed narrowed ran, bind_apply, ended]
    by_cases ordered : (after.withBound direction (s.bound direction)).WindowInOrder
    · simp [ordered]
    · simp [ordered]
  rw [fits]
  cases direction with
  | forward => exact (enclosed.end_fits_iff wellFormed reaches).trans (by simp)
  | backward => exact iff_of_true (enclosed.start_fits reaches) (.inl rfl)

/-- Takes off the letters from one position of the window up to another. -/
def takeOff (start stop : Nat) : Scan (Option Unit) := do
  setCursor start
  startSlice
  setCursor stop
  endSlice
  deleteSlice
  return some ()

/-- A letter is taken off above the mark of a window that starts after the first letter. -/
theorem within_keeps_beyond_iff_hest :
    ∃ final, within ⟨0⟩ .backward (takeOff 3 4)
        ⟨['h', 'e', 's', 't'], 4, 1, 4, 0, 0, [2], .backward⟩ = .returned (some ()) final ∧
      final.beyond .backward = ['h'] := by
  have narrowed : narrow ⟨0⟩ .backward ⟨['h', 'e', 's', 't'], 4, 1, 4, 0, 0, [2], .backward⟩ =
      .returned (some ⟨.backward, 1⟩)
        ⟨['h', 'e', 's', 't'], 4, 2, 4, 0, 0, [2], .backward⟩ := by decide
  have placed : ScanState.Confined ⟨['h', 'e', 's', 't'], 4, 2, 4, 0, 0, [2], .backward⟩
      ⟨['h', 'e', 's', 't'], 4, 2, 4, 3, 4, [2], .backward⟩ := .sliced .none 3 4
  have confined := placed.edited .deleteSlice (by decide) (by decide) rfl
  have ran : takeOff 3 4 ⟨['h', 'e', 's', 't'], 4, 2, 4, 0, 0, [2], .backward⟩ =
      .returned (some ()) ⟨['h', 'e', 's'], 3, 2, 3, 3, 3, [2], .backward⟩ := rfl
  exact (within_keeps_beyond_iff (by decide) narrowed ran confined).mpr (.inl rfl)

/-- Two letters are taken off below the mark at which the window was narrowed to end. The end that
is put back lies beyond the word, and that is reported in place of the answer. With one letter more,
the last letter of the word is no longer in the window. -/
theorem within_misses_end_katten :
    ScanState.Confined ⟨['k', 'a', 't', 't', 'e', 'n'], 0, 0, 5, 0, 6, [5], .forward⟩
      ⟨['k', 't', 'e', 'n'], 1, 0, 3, 1, 1, [3], .forward⟩ ∧
    within ⟨0⟩ .forward (takeOff 1 3)
        ⟨['k', 'a', 't', 't', 'e', 'n'], 0, 0, 6, 0, 6, [5], .forward⟩ =
      .faulted (.cursorOutsideWindow 1 0 6 4)
        ⟨['k', 't', 'e', 'n'], 1, 0, 6, 1, 1, [3], .forward⟩ ∧
    (within ⟨0⟩ .forward (insert 2 ['s'] *> pure (some ())) : Scan (Option Unit))
        ⟨['k', 'a', 't', 't', 'e', 'n'], 0, 0, 6, 0, 6, [5], .forward⟩ =
      .returned (some ())
        ⟨['k', 'a', 's', 't', 't', 'e', 'n'], 0, 0, 6, 0, 7, [6], .forward⟩ := by
  have moved : ScanState.Confined ⟨['k', 'a', 't', 't', 'e', 'n'], 0, 0, 5, 0, 6, [5], .forward⟩
      ⟨['k', 'a', 't', 't', 'e', 'n'], 3, 0, 5, 0, 6, [5], .forward⟩ :=
    .moved .none (by decide) (by decide)
  have placed := moved.sliced 1 3
  exact ⟨placed.edited .deleteSlice (by decide) (by decide) rfl, rfl, rfl⟩

/-- A probe gives what its body gave. Around a body that leaves the window as it was, it changes the
cursor alone, and the cursor is where it was before just if the body gave an answer, or reported a
violation with the cursor there. -/
theorem probe_restores_cursor_iff {body : Scan Bool} (ordered : s.WindowInOrder)
    (left : (body s).state? = some after) (sameStart : after.windowStart = s.windowStart)
    (sameEnd : after.windowEnd = s.windowEnd) :
    (probe body s).result = (body s).result ∧
      ∃ cursor, (probe body s).state? = some { after with cursor := cursor } ∧
        (cursor = s.cursor ↔ (∃ applied, body s = .returned applied after) ∨
          after.cursor = s.cursor) := by
  cases ran : body s with
  | returned applied middle =>
      obtain rfl : middle = after := by simpa [ran, Outcome.state?] using left
      rw [probe_of_same_window ordered ran sameStart sameEnd]
      exact ⟨rfl, s.cursor, rfl, by simp⟩
  | faulted violation middle =>
      obtain rfl : middle = after := by simpa [ran, Outcome.state?] using left
      obtain ⟨saved, kept⟩ := saveCursor_eq ordered
      have ended : probe body s = .faulted violation middle := by
        rw [probe_eq, bind_of_returned kept, bind_apply, ran]
      rw [ended]
      exact ⟨rfl, middle.cursor, rfl, by simp⟩
  | trapped trap => simp [ran, Outcome.state?] at left

/-- A probe backward over two letters, of which the window has both. -/
theorem probe_restores_cursor_iff_hest :
    (probe (hop .backward 2) ⟨['h', 'e', 's', 't'], 4, 1, 4, 0, 4, [], .backward⟩).result =
      .ok true ∧
    (probe (hop .backward 2) ⟨['h', 'e', 's', 't'], 4, 1, 4, 0, 4, [], .backward⟩).state? =
      some ⟨['h', 'e', 's', 't'], 4, 1, 4, 0, 4, [], .backward⟩ := by
  have ordered : ScanState.WindowInOrder
      ⟨['h', 'e', 's', 't'], 4, 1, 4, 0, 4, [], .backward⟩ := by decide
  have left : (hop .backward 2 ⟨['h', 'e', 's', 't'], 4, 1, 4, 0, 4, [], .backward⟩).state? =
      some ⟨['h', 'e', 's', 't'], 2, 1, 4, 0, 4, [], .backward⟩ := by decide
  obtain ⟨same, cursor, final, back⟩ := probe_restores_cursor_iff ordered left rfl rfl
  obtain rfl : cursor = 4 := back.mpr (.inl ⟨true, rfl⟩)
  exact ⟨same, final⟩

/-- A violation after two letters, at which the cursor stays. -/
theorem probe_leaves_cursor_abc :
    (probe (do let _ ← hop .forward 2; setCursor 9; pure true) : Scan Bool)
        ⟨['a', 'b', 'c'], 0, 0, 3, 0, 3, [], .forward⟩ =
      .faulted (.cursorOutsideWindow 9 0 3 3) ⟨['a', 'b', 'c'], 2, 0, 3, 0, 3, [], .forward⟩ :=
  rfl

end Scan

end Stemming
