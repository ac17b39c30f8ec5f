import Stemming.Proofs.Routine.Frames

set_option autoImplicit false

namespace Stemming

/-- An outcome leaves a state, and the state has a property. -/
def Outcome.Leaves {α : Type} (outcome : Outcome α) (property : ScanState → Prop) : Prop :=
  match outcome with
  | .returned _ after => property after
  | .faulted _ after => property after
  | .trapped _ => False

namespace ScanState

/-- The window, the marks and the slice lie in the word, and there are `markCount` marks. -/
structure Ordered (markCount : Nat) (s : ScanState) : Prop extends WellFormed s where
  sliceStart_le_length : s.sliceStart ≤ s.length
  sliceEnd_le_length : s.sliceEnd ≤ s.length
  marked : s.marks.length = markCount

/-- No letter has changed, and the window has not grown. -/
structure Narrows (s after : ScanState) : Prop where
  letters : after.letters = s.letters
  start : s.windowStart ≤ after.windowStart
  stop : after.windowEnd ≤ s.windowEnd

/-- What is known of the state after a part of a run, and more if the part is without edits. -/
structure Follows (markCount : Nat) (edits : Bool) (s after : ScanState) : Prop where
  ordered : after.Ordered markCount
  narrows : edits = false → s.Narrows after

theorem ordered_ofWord (word : List Char) (markCount : Nat) :
    (ofWord word markCount).Ordered markCount where
  toWellFormed := wellFormed_ofWord word markCount
  sliceStart_le_length := Nat.zero_le _
  sliceEnd_le_length := Nat.le_refl _
  marked := List.length_replicate

theorem Narrows.refl (s : ScanState) : s.Narrows s :=
  ⟨rfl, Nat.le_refl _, Nat.le_refl _⟩

theorem Narrows.trans {s after last : ScanState} (first : s.Narrows after)
    (second : after.Narrows last) : s.Narrows last :=
  ⟨second.letters.trans first.letters, Nat.le_trans first.start second.start,
    Nat.le_trans second.stop first.stop⟩

variable {markCount : Nat} {edits : Bool} {s after last : ScanState}

theorem Follows.trans (first : s.Follows markCount edits after)
    (second : after.Follows markCount edits last) : s.Follows markCount edits last :=
  ⟨second.ordered, fun without => (first.narrows without).trans (second.narrows without)⟩

theorem Ordered.follows_self (ordered : s.Ordered markCount) : s.Follows markCount edits s :=
  ⟨ordered, fun _ => Narrows.refl s⟩

theorem Ordered.follows_moved (ordered : s.Ordered markCount) (moved : s.Moved after)
    (inOrder : after.WindowInOrder) : s.Follows markCount edits after := by
  obtain ⟨cursor, rfl⟩ := moved
  exact ⟨⟨⟨inOrder, ordered.marks_le_length⟩, ordered.sliceStart_le_length,
    ordered.sliceEnd_le_length, ordered.marked⟩, fun _ => ⟨rfl, Nat.le_refl _, Nat.le_refl _⟩⟩

theorem Ordered.follows_advance (ordered : s.Ordered markCount) (direction : Direction)
    {count : Nat} (room : count ≤ (s.ahead direction).length) :
    s.Follows markCount edits (s.advance direction count) :=
  ordered.follows_moved (moved_advance direction count)
    (ordered.toWindowInOrder.advance direction room)

theorem Ordered.follows_repointed (ordered : s.Ordered markCount) (repointed : s.Repointed after)
    (inOrder : after.WindowInOrder) (start : after.sliceStart ≤ s.windowEnd)
    (stop : after.sliceEnd ≤ s.windowEnd) : s.Follows markCount edits after := by
  obtain ⟨cursor, sliceStart, sliceEnd, rfl⟩ := repointed
  exact ⟨⟨⟨inOrder, ordered.marks_le_length⟩, Nat.le_trans start ordered.end_le_length,
    Nat.le_trans stop ordered.end_le_length, ordered.marked⟩,
    fun _ => ⟨rfl, Nat.le_refl _, Nat.le_refl _⟩⟩

theorem Ordered.cursor_le_length (ordered : s.Ordered markCount) : s.cursor ≤ s.length :=
  Nat.le_trans ordered.cursor_le_end ordered.end_le_length

theorem Ordered.follows_withBound (ordered : s.Ordered markCount) {direction : Direction}
    {position : Nat} (reaches : s.Reaches direction position) :
    s.Follows markCount edits (s.withBound direction position) := by
  have wellFormed := ordered.toWellFormed.withBound reaches
  cases direction with
  | forward =>
      exact ⟨⟨wellFormed, ordered.sliceStart_le_length, ordered.sliceEnd_le_length,
        ordered.marked⟩, fun _ => ⟨rfl, Nat.le_refl _, reaches.2⟩⟩
  | backward =>
      exact ⟨⟨wellFormed, ordered.sliceStart_le_length, ordered.sliceEnd_le_length,
        ordered.marked⟩, fun _ => ⟨rfl, reaches.1, Nat.le_refl _⟩⟩

end ScanState

section

variable {markCount : Nat} {edits : Bool} {α β : Type} {s after : ScanState}

theorem Outcome.Framed.leaves {outcome : Outcome α} {denies : α → Prop}
    {frame property : ScanState → Prop} (framed : outcome.Framed s denies frame)
    (start : property s) (changed : ∀ {after}, frame after → after.WindowInOrder → property after) :
    outcome.Leaves property := by
  cases outcome with
  | returned answer after =>
      show property after
      by_cases denied : denies answer
      · rw [framed.1 denied]
        exact start
      · exact changed (framed.2 denied).1 (framed.2 denied).2
  | faulted violation after =>
      show property after
      rw [show after = s from framed]
      exact start
  | trapped trap => exact framed

/-- What is in the frame of an operation keeps the positions in order and the window inside what it
was. -/
theorem Operation.Frame.follows {operation : Operation markCount β}
    (frame : operation.Frame s after) (ordered : s.Ordered markCount)
    (inOrder : after.WindowInOrder) : s.Follows markCount edits after := by
  cases operation with
  | setCursor | restoreCursor | hop | step | literal | test | seek | seekPast =>
      exact ordered.follows_moved frame inOrder
  | look | saveCursor =>
      cases frame
      exact ordered.follows_self
  | enterBackward | leaveBackward =>
      obtain ⟨windowStart, cursor, mode, above, rfl⟩ := frame
      exact ⟨⟨⟨inOrder, ordered.marks_le_length⟩, ordered.sliceStart_le_length,
        ordered.sliceEnd_le_length, ordered.marked⟩, fun _ => ⟨rfl, above, Nat.le_refl _⟩⟩
  | startSlice =>
      cases frame
      exact ⟨⟨⟨inOrder, ordered.marks_le_length⟩, ordered.cursor_le_length,
        ordered.sliceEnd_le_length, ordered.marked⟩, fun _ => ⟨rfl, Nat.le_refl _, Nat.le_refl _⟩⟩
  | endSlice =>
      cases frame
      exact ⟨⟨⟨inOrder, ordered.marks_le_length⟩, ordered.sliceStart_le_length,
        ordered.cursor_le_length, ordered.marked⟩, fun _ => ⟨rfl, Nat.le_refl _, Nat.le_refl _⟩⟩
  | setMark mark value =>
      obtain ⟨inWord, rfl⟩ := frame
      exact ⟨⟨⟨inOrder, ScanState.marks_set_le ordered.marks_le_length mark.val inWord⟩,
        ordered.sliceStart_le_length, ordered.sliceEnd_le_length,
        List.length_set.trans ordered.marked⟩, fun _ => ⟨rfl, Nat.le_refl _, Nat.le_refl _⟩⟩
  | narrow mark direction =>
      obtain ⟨position, reaches, rfl⟩ := frame
      exact ordered.follows_withBound reaches
  | find table direction plain linked =>
      obtain ⟨repointed, start, stop⟩ := frame
      exact ordered.follows_repointed repointed inOrder start stop

theorem Operation.leaves (operation : Operation markCount β) (ordered : s.Ordered markCount) :
    (operation.action s).Leaves (s.Follows markCount edits) :=
  (operation.framed ordered.toWindowInOrder ordered.marked).leaves ordered.follows_self
    fun frame inOrder => frame.follows ordered inOrder

theorem ScanState.Ordered.follows_replaced (ordered : s.Ordered markCount) {start stop : Nat}
    (text : List Char) (spans : start ≤ stop) (inside : stop ≤ s.length) :
    s.Follows markCount true (s.replaced start stop text) := by
  have length := ScanState.length_replaced text spans inside
  refine ⟨⟨ordered.replaced text spans inside, ?_, ?_, ?_⟩, by simp⟩
  · rw [length]
    exact shifted_mono spans ordered.sliceStart_le_length
  · rw [length]
    exact shifted_mono spans ordered.sliceEnd_le_length
  · exact (List.length_map _).trans ordered.marked

theorem Edit.leaves (edit : Edit) (ordered : s.Ordered markCount) :
    (edit.action s).Leaves (s.Follows markCount true) := by
  apply (edit.framed ordered.toWindowInOrder).leaves ordered.follows_self
  intro after changed _
  obtain ⟨fits, rfl⟩ := changed
  exact ordered.follows_replaced edit.text fits.spans.1 fits.spans.2

end

end Stemming
