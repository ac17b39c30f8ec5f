import Mathlib.Data.List.Basic
import Stemming.Scan.Edit

set_option autoImplicit false

namespace Stemming

theorem shifted_of_stop_le {start stop inserted position : Nat} (after : stop ≤ position) :
    shifted start stop inserted position = position - (stop - start) + inserted :=
  if_pos after

/-- The difference that is taken from a position is never above it. -/
theorem shifted_add {start stop inserted position : Nat} (spans : start ≤ stop)
    (after : stop ≤ position) :
    shifted start stop inserted position + (stop - start) = position + inserted := by
  rw [shifted_of_stop_le after]
  omega

theorem shifted_of_le_start {start stop inserted position : Nat} (before : position ≤ start)
    (notAfter : position < stop) : shifted start stop inserted position = position := by
  rw [shifted, if_neg (by omega), if_neg (by omega)]

theorem shifted_of_inside {start stop inserted position : Nat} (beyond : start < position)
    (notAfter : position < stop) : shifted start stop inserted position = start := by
  rw [shifted, if_neg (by omega), if_pos beyond]

/-- Positions never change their order. -/
theorem shifted_mono {start stop inserted first second : Nat} (spans : start ≤ stop)
    (ordered : first ≤ second) :
    shifted start stop inserted first ≤ shifted start stop inserted second := by
  unfold shifted
  split
  · rw [if_pos (by omega)]
    omega
  · split <;> split
    · omega
    · split <;> omega
    · omega
    · split <;> omega

namespace ScanState

variable {s : ScanState} {start stop : Nat}

theorem length_replaced (text : List Char) (spans : start ≤ stop) (inside : stop ≤ s.length) :
    (s.replaced start stop text).length = shifted start stop text.length s.length := by
  change stop ≤ s.letters.length at inside
  rw [shifted_of_stop_le inside]
  simp only [length, replaced, List.length_append, List.length_take, List.length_drop]
  omega

theorem take_replaced (text : List Char) {position : Nat} (before : position ≤ start)
    (inside : start ≤ s.length) :
    (s.replaced start stop text).letters.take position = s.letters.take position := by
  have fits : start ≤ s.letters.length := inside
  show (s.letters.take start ++ text ++ s.letters.drop stop).take position = _
  rw [List.append_assoc, List.take_append_of_le_length (by rw [List.length_take]; omega),
    List.take_take, Nat.min_eq_left before]

/-- A position from the replaced letters on is moved to count from the end of the new text. -/
theorem shifted_eq_length_add (text : List Char) {position : Nat} (spans : start ≤ stop)
    (inside : stop ≤ s.length) (after : stop ≤ position) :
    shifted start stop text.length position =
      (s.letters.take start ++ text).length + (position - stop) := by
  have fits : stop ≤ s.letters.length := inside
  rw [shifted_of_stop_le after, List.length_append, List.length_take]
  omega

theorem drop_replaced (text : List Char) {position : Nat} (spans : start ≤ stop)
    (inside : stop ≤ s.length) (after : stop ≤ position) :
    (s.replaced start stop text).letters.drop (shifted start stop text.length position) =
      s.letters.drop position := by
  show (s.letters.take start ++ text ++ s.letters.drop stop).drop _ = _
  rw [shifted_eq_length_add text spans inside after, List.drop_length_add_append, List.drop_drop,
    Nat.add_sub_cancel' after]

theorem WindowInOrder.replaced (ordered : s.WindowInOrder) (text : List Char)
    (spans : start ≤ stop) (inside : stop ≤ s.length) :
    (s.replaced start stop text).WindowInOrder where
  start_le_cursor := shifted_mono spans ordered.start_le_cursor
  cursor_le_end := shifted_mono spans ordered.cursor_le_end
  end_le_length := by
    rw [length_replaced text spans inside]
    exact shifted_mono spans ordered.end_le_length

theorem WellFormed.replaced (wellFormed : s.WellFormed) (text : List Char)
    (spans : start ≤ stop) (inside : stop ≤ s.length) :
    (s.replaced start stop text).WellFormed where
  toWindowInOrder := wellFormed.toWindowInOrder.replaced text spans inside
  marks_le_length value member := by
    obtain ⟨old, oldMember, rfl⟩ := List.mem_map.mp member
    rw [length_replaced text spans inside]
    exact shifted_mono spans (wellFormed.marks_le_length old oldMember)

end ScanState

namespace Scan

variable {s : ScanState}

theorem replaceRange_eq {start stop : Nat} (spans : start ≤ stop) (inside : stop ≤ s.length)
    (text : List Char) :
    replaceRange start stop text s = .returned () (s.replaced start stop text) :=
  if_pos ⟨spans, inside⟩

theorem replaceSlice_eq (inOrder : s.SliceInOrder) (text : List Char) :
    replaceSlice text s = .returned () (s.replaced s.sliceStart s.sliceEnd text) := by
  rw [replaceSlice, if_pos inOrder]
  exact replaceRange_eq inOrder.1 (Nat.le_trans inOrder.2.1 inOrder.2.2) text

end Scan

end Stemming
