import Stemming.Proofs.Routine.Restoring

set_option autoImplicit false

namespace Stemming

namespace Operation

variable {markCount : Nat} {β : Type}

/-- The operation puts the cursor or an end of the slice somewhere and does nothing else. -/
def Places : Operation markCount β → Prop
  | .setCursor _ | .hop _ _ | .step _ | .startSlice | .endSlice => True
  | _ => False

end Operation

namespace ScanState

/-- The state `after` has the word and the window of `s`; the cursor is in the window, and the slice
may be anywhere. -/
structure Placed (s after : ScanState) : Prop where
  ordered : after.WindowInOrder
  letters : after.letters = s.letters
  windowStart : after.windowStart = s.windowStart
  windowEnd : after.windowEnd = s.windowEnd

variable {s after last : ScanState}

theorem WindowInOrder.placed_self (ordered : s.WindowInOrder) : s.Placed s :=
  ⟨ordered, rfl, rfl, rfl⟩

theorem Moved.placed (moved : s.Moved after) (inOrder : after.WindowInOrder) : s.Placed after := by
  obtain ⟨cursor, rfl⟩ := moved
  exact ⟨inOrder, rfl, rfl, rfl⟩

theorem WindowInOrder.placed_slice (ordered : s.WindowInOrder) (sliceStart sliceEnd : Nat) :
    s.Placed { s with sliceStart := sliceStart, sliceEnd := sliceEnd } :=
  ⟨⟨ordered.start_le_cursor, ordered.cursor_le_end, ordered.end_le_length⟩, rfl, rfl, rfl⟩

end ScanState

namespace Operation

variable {markCount : Nat} {β : Type} {s : ScanState}

theorem Places.leaves {operation : Operation markCount β} (places : operation.Places)
    (ordered : s.WindowInOrder) : (operation.action s).Leaves s.Placed := by
  cases operation with
  | setCursor position =>
      exact (Scan.setCursor_framed ordered position).leaves ordered.placed_self
        ScanState.Moved.placed
  | hop direction count =>
      exact (Scan.hop_framed ordered direction count).leaves ordered.placed_self
        ScanState.Moved.placed
  | step direction =>
      exact (Scan.hop_framed ordered direction 1).leaves ordered.placed_self
        ScanState.Moved.placed
  | startSlice => exact ordered.placed_slice s.cursor s.sliceEnd
  | endSlice => exact ordered.placed_slice s.sliceStart s.cursor
  | _ => exact absurd places id

end Operation

namespace ScanState

/-- An edit of the letters from `start` up to `stop` is on the side from which the saved cursor of
`s` is not counted: behind the cursor in forward mode, and in backward mode before `position`, to
which the cursor has gone with the text. -/
def Spares (s : ScanState) (start stop position : Nat) : Prop :=
  match s.mode with
  | .forward => s.cursor ≤ start ∧ s.cursor < stop
  | .backward => stop ≤ position

/-- Any amount of work after the cursor of `s` was saved: operations that place the cursor and the
slice, whatever they answer, and edits that spare the saved cursor. The edits take the text at the
saved cursor to the position given last. -/
inductive Worked (s : ScanState) : ScanState → Nat → Prop where
  | none : s.Worked s s.cursor
  | placed {after last : ScanState} {position markCount : Nat} {β : Type}
      (earlier : s.Worked after position) {operation : Operation markCount β}
      (places : operation.Places) (left : (operation.action after).state? = some last) :
      s.Worked last position
  | edited {after last : ScanState} {position : Nat} (earlier : s.Worked after position)
      (edit : Edit) (spared : s.Spares (edit.start after) (edit.stop after) position)
      (ran : edit.action after = .returned () last) :
      s.Worked last (shifted (edit.start after) (edit.stop after) edit.text.length position)

/-- What such work keeps: the position is in the window; in forward mode it and the text before it
are what they were, in backward mode its distance from the end of the window and the text behind
it. -/
structure Kept (s after : ScanState) (position : Nat) : Prop where
  ordered : after.WindowInOrder
  above : after.windowStart ≤ position
  below : position ≤ after.windowEnd
  forward : s.mode = .forward →
    position = s.cursor ∧ after.letters.take s.cursor = s.letters.take s.cursor
  backward : s.mode = .backward →
    after.windowEnd - position = s.windowEnd - s.cursor ∧
      after.letters.drop position = s.letters.drop s.cursor

variable {s after last : ScanState} {position : Nat}

theorem WindowInOrder.kept_self (ordered : s.WindowInOrder) : s.Kept s s.cursor :=
  ⟨ordered, ordered.start_le_cursor, ordered.cursor_le_end, fun _ => ⟨rfl, rfl⟩,
    fun _ => ⟨rfl, rfl⟩⟩

theorem Kept.placed (kept : s.Kept after position) (placed : after.Placed last) :
    s.Kept last position where
  ordered := placed.ordered
  above := by
    rw [placed.windowStart]
    exact kept.above
  below := by
    rw [placed.windowEnd]
    exact kept.below
  forward mode := by
    rw [placed.letters]
    exact kept.forward mode
  backward mode := by
    rw [placed.letters, placed.windowEnd]
    exact kept.backward mode

/-- An edit on the other side moves the position with the text, and the window with it. -/
theorem Kept.replaced (kept : s.Kept after position) {start stop : Nat} (text : List Char)
    (spans : start ≤ stop) (inside : stop ≤ after.length) (spared : s.Spares start stop position) :
    s.Kept (after.replaced start stop text) (shifted start stop text.length position) where
  ordered := kept.ordered.replaced text spans inside
  above := shifted_mono spans kept.above
  below := shifted_mono spans kept.below
  forward mode := by
    obtain ⟨same, before⟩ := kept.forward mode
    rw [Spares, mode] at spared
    rw [same, shifted_of_le_start spared.1 spared.2,
      take_replaced text spared.1 (Nat.le_trans spans inside)]
    exact ⟨rfl, before⟩
  backward mode := by
    obtain ⟨distance, behind⟩ := kept.backward mode
    rw [Spares, mode] at spared
    have moved : stop ≤ position := spared
    have below := kept.below
    rw [drop_replaced text spans inside moved]
    refine ⟨?_, behind⟩
    show shifted start stop text.length after.windowEnd - _ = _
    rw [shifted_of_stop_le moved, shifted_of_stop_le (Nat.le_trans moved below)]
    omega

theorem Worked.kept (worked : s.Worked after position) (ordered : s.WindowInOrder) :
    s.Kept after position := by
  induction worked with
  | none => exact ordered.kept_self
  | placed earlier places left ih => exact ih.placed ((places.leaves ih.ordered).of_state? left)
  | edited earlier edit spared ran ih =>
      obtain ⟨fits, rfl⟩ := Edit.action_returned_iff.mp ran
      exact ih.replaced edit.text fits.spans.1 fits.spans.2 spared

end ScanState

namespace Scan

variable {s : ScanState}

/-- A saved cursor can be put back after any amount of work with edits on the other side. It goes
where the text at it has gone, and there is the same text before it in forward mode, and behind it
in backward mode. -/
theorem restoreCursor_of_worked (ordered : s.WindowInOrder) :
    ∃ saved, saveCursor s = .returned saved s ∧ ∀ after position, s.Worked after position →
      restoreCursor saved after = .returned () { after with cursor := position } ∧
      (s.mode = .forward →
        position = s.cursor ∧ after.letters.take position = s.letters.take s.cursor) ∧
      (s.mode = .backward → after.letters.drop position = s.letters.drop s.cursor) := by
  cases mode : s.mode with
  | forward =>
      refine ⟨_, saveCursor_of_forward mode, ?_⟩
      intro after position worked
      have kept := worked.kept ordered
      obtain ⟨rfl, before⟩ := kept.forward mode
      exact ⟨setCursor_eq kept.above kept.below, fun _ => ⟨rfl, before⟩, by simp⟩
  | backward =>
      refine ⟨_, saveCursor_of_backward mode ordered.cursor_le_end, ?_⟩
      intro after position worked
      have kept := worked.kept ordered
      obtain ⟨distance, behind⟩ := kept.backward mode
      have above := kept.above
      have below := kept.below
      have back : after.windowEnd - (s.windowEnd - s.cursor) = position := by omega
      rw [restoreCursor_fromEnd (by omega), back]
      exact ⟨rfl, by simp, fun _ => behind⟩

/-- In backward mode the letters just before the saved cursor are deleted, the cursor goes back one
letter, and a letter is inserted there, at the start of the window; in forward mode the letters just
behind the saved cursor are replaced, and the cursor goes on. -/
theorem restoreCursor_of_worked_hestene :
    restoreCursor (.fromEnd 2) ⟨['h', 'e', 'x', 's', 'n', 'e'], 3, 3, 6, 4, 4, [], .backward⟩ =
      .returned () ⟨['h', 'e', 'x', 's', 'n', 'e'], 4, 3, 6, 4, 4, [], .backward⟩ ∧
    restoreCursor (.fromStart 3)
        ⟨['h', 'e', 's', 'e', 'r', 'n', 'e'], 6, 2, 7, 3, 5, [], .forward⟩ =
      .returned () ⟨['h', 'e', 's', 'e', 'r', 'n', 'e'], 3, 2, 7, 3, 5, [], .forward⟩ := by
  constructor
  · have ordered : ScanState.WindowInOrder
        ⟨['h', 'e', 's', 't', 'e', 'n', 'e'], 5, 2, 7, 3, 5, [], .backward⟩ := by decide
    have deleted : ScanState.Worked
        ⟨['h', 'e', 's', 't', 'e', 'n', 'e'], 5, 2, 7, 3, 5, [], .backward⟩
        ⟨['h', 'e', 's', 'n', 'e'], 3, 2, 5, 3, 3, [], .backward⟩ 3 :=
      .edited .none .deleteSlice (Nat.le_refl 5) rfl
    have hopped : ScanState.Worked
        ⟨['h', 'e', 's', 't', 'e', 'n', 'e'], 5, 2, 7, 3, 5, [], .backward⟩
        ⟨['h', 'e', 's', 'n', 'e'], 2, 2, 5, 3, 3, [], .backward⟩ 3 :=
      @ScanState.Worked.placed _ _ _ _ 0 Bool deleted (.hop .backward 1) trivial rfl
    have inserted : ScanState.Worked
        ⟨['h', 'e', 's', 't', 'e', 'n', 'e'], 5, 2, 7, 3, 5, [], .backward⟩
        ⟨['h', 'e', 'x', 's', 'n', 'e'], 3, 3, 6, 4, 4, [], .backward⟩ 4 :=
      .edited hopped (.insert 2 ['x']) (by decide : 2 ≤ 3) rfl
    obtain ⟨saved, kept, restores⟩ := restoreCursor_of_worked ordered
    obtain rfl : SavedCursor.fromEnd 2 = saved := (Outcome.returned.inj kept).1
    exact (restores _ _ inserted).1
  · have ordered : ScanState.WindowInOrder
        ⟨['h', 'e', 's', 't', 'e', 'n', 'e'], 3, 2, 7, 3, 5, [], .forward⟩ := by decide
    have replaced : ScanState.Worked
        ⟨['h', 'e', 's', 't', 'e', 'n', 'e'], 3, 2, 7, 3, 5, [], .forward⟩
        ⟨['h', 'e', 's', 'e', 'r', 'n', 'e'], 3, 2, 7, 3, 5, [], .forward⟩ 3 :=
      .edited .none (.replaceSlice ['e', 'r']) (by decide : 3 ≤ 3 ∧ 3 < 5) rfl
    have moved : ScanState.Worked
        ⟨['h', 'e', 's', 't', 'e', 'n', 'e'], 3, 2, 7, 3, 5, [], .forward⟩
        ⟨['h', 'e', 's', 'e', 'r', 'n', 'e'], 6, 2, 7, 3, 5, [], .forward⟩ 3 :=
      @ScanState.Worked.placed _ _ _ _ 0 Unit replaced (.setCursor 6) trivial rfl
    obtain ⟨saved, kept, restores⟩ := restoreCursor_of_worked ordered
    obtain rfl : SavedCursor.fromStart 3 = saved := (Outcome.returned.inj kept).1
    exact (restores _ _ moved).1

end Scan

end Stemming
