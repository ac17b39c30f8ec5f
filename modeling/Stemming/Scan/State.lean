import Stemming.Direction

/-!
The state of one stemming run: the letters of the word, a window on them with a cursor, a slice
that edits act on, and the region marks. The bounds are plain offsets. That they are in order is
not part of the type, because a misused operation can leave them out of order, and it is then
reported; `ScanState.WellFormed` says what holds as long as none was misused.
-/

set_option autoImplicit false

namespace Stemming

/-- The number of a region mark in a state. -/
structure Mark where
  index : Nat
  deriving DecidableEq, Repr

/-- The word being rewritten and every position that is tracked in it. -/
structure ScanState where
  letters : List Char
  /-- The position of the scan: the number of letters before it. -/
  cursor : Nat
  windowStart : Nat
  windowEnd : Nat
  /-- The first letter of the slice that edits act on. -/
  sliceStart : Nat
  /-- The position after the last letter of the slice. -/
  sliceEnd : Nat
  marks : List Nat
  mode : Direction
  deriving DecidableEq, Repr

namespace ScanState

/-- The state in which a run on `word` starts: window and slice span the word, the cursor stands
at its start, and all of the `markCount` marks are zero. -/
def ofWord (word : List Char) (markCount : Nat) : ScanState where
  letters := word
  cursor := 0
  windowStart := 0
  windowEnd := word.length
  sliceStart := 0
  sliceEnd := word.length
  marks := List.replicate markCount 0
  mode := .forward

abbrev length (s : ScanState) : Nat :=
  s.letters.length

/-- The cursor lies in the window and the window in the word. -/
structure WindowInOrder (s : ScanState) : Prop where
  start_le_cursor : s.windowStart ≤ s.cursor
  cursor_le_end : s.cursor ≤ s.windowEnd
  end_le_length : s.windowEnd ≤ s.length

/-- The window is in order and no mark lies beyond the word. -/
structure WellFormed (s : ScanState) : Prop extends WindowInOrder s where
  marks_le_length : ∀ value ∈ s.marks, value ≤ s.length

instance (s : ScanState) : Decidable s.WindowInOrder :=
  decidable_of_iff (s.windowStart ≤ s.cursor ∧ s.cursor ≤ s.windowEnd ∧ s.windowEnd ≤ s.length)
    ⟨fun h => ⟨h.1, h.2.1, h.2.2⟩, fun h => ⟨h.1, h.2, h.3⟩⟩

instance (s : ScanState) : Decidable s.WellFormed :=
  decidable_of_iff (s.WindowInOrder ∧ ∀ value ∈ s.marks, value ≤ s.length)
    ⟨fun h => ⟨h.1, h.2⟩, fun h => ⟨h.1, h.2⟩⟩

theorem wellFormed_ofWord (word : List Char) (markCount : Nat) :
    (ofWord word markCount).WellFormed where
  start_le_cursor := Nat.le_refl 0
  cursor_le_end := Nat.zero_le _
  end_le_length := Nat.le_refl _
  marks_le_length value member := by
    rw [(List.mem_replicate.mp member).2]
    exact Nat.zero_le _

/-- The text inside the window as a scan in `direction` meets it from the cursor on. -/
def ahead (s : ScanState) : Direction → List Char
  | .forward => (s.letters.take s.windowEnd).drop s.cursor
  | .backward => ((s.letters.take s.cursor).drop s.windowStart).reverse

/-- The number of letters between the cursor and the window's end in `direction`; none if the
cursor lies beyond that end. -/
def room? (s : ScanState) : Direction → Option Nat
  | .forward => if s.cursor ≤ s.windowEnd then some (s.windowEnd - s.cursor) else none
  | .backward => if s.windowStart ≤ s.cursor then some (s.cursor - s.windowStart) else none

def advance (s : ScanState) (direction : Direction) (count : Nat) : ScanState :=
  match direction with
  | .forward => { s with cursor := s.cursor + count }
  | .backward => { s with cursor := s.cursor - count }

end ScanState

end Stemming
