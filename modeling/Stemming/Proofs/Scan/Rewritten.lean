import Stemming.Proofs.Scan.Edits
import Stemming.Proofs.Scan.Window

set_option autoImplicit false

namespace Stemming.ScanState

/-- The text of the window up to the cursor. -/
def behind (s : ScanState) : List Char :=
  (s.letters.take s.cursor).drop s.windowStart

/-- The text behind the cursor has become `word`. The positions after it have moved with the text
there, and the first mark has stayed. -/
structure Rewritten (s after : ScanState) (word : List Char) : Prop where
  wellFormed : after.WellFormed
  letters : after.letters = s.letters.take s.windowStart ++ word ++ s.letters.drop s.cursor
  windowStart : after.windowStart = s.windowStart
  windowEnd : after.windowEnd = s.windowStart + word.length + (s.windowEnd - s.cursor)
  mode : after.mode = s.mode
  marked : after.marks.length = s.marks.length
  firstMark : after.marks[0]? = s.marks[0]?

/-- What an action on the text behind the cursor says of it: one that applied has made the text
shorter, one that did not apply has left it, and all marks, as they were. -/
structure Reported (s after : ScanState) (applied : Bool) (word : List Char) : Prop extends
    Rewritten s after word where
  shorter : applied = true → word.length < s.behind.length
  kept : applied = false → word = s.behind ∧ after.marks = s.marks

variable {s after last : ScanState} {word other : List Char}

theorem ahead_backward (s : ScanState) : s.ahead .backward = s.behind.reverse := rfl

theorem WindowInOrder.length_behind (ordered : s.WindowInOrder) :
    s.behind.length = s.cursor - s.windowStart := by
  rw [← ordered.length_ahead_backward, ahead_backward, List.length_reverse]

theorem WindowInOrder.letters_eq (ordered : s.WindowInOrder) :
    s.letters = s.letters.take s.windowStart ++ s.behind ++ s.letters.drop s.cursor := by
  have before : s.letters.take s.windowStart = (s.letters.take s.cursor).take s.windowStart := by
    rw [List.take_take, Nat.min_eq_left ordered.start_le_cursor]
  rw [behind, before, List.take_append_drop, List.take_append_drop]

theorem take_eq_append_behind {start : Nat} (above : s.windowStart ≤ start)
    (before : start ≤ s.cursor) :
    s.letters.take start =
      s.letters.take s.windowStart ++ s.behind.take (start - s.windowStart) := by
  have outer : s.letters.take s.windowStart = (s.letters.take start).take s.windowStart := by
    rw [List.take_take, Nat.min_eq_left above]
  have inner : s.behind.take (start - s.windowStart) =
      (s.letters.take start).drop s.windowStart := by
    rw [behind, List.take_drop, List.take_take]
    congr 2
    omega
  rw [outer, inner, List.take_append_drop]

/-- A state that differs in the cursor and the slice only has the same text behind the old
cursor. -/
theorem WellFormed.rewritten (wellFormed : s.WellFormed) {cursor : Nat}
    (above : s.windowStart ≤ cursor) (below : cursor ≤ s.windowEnd) (sliceStart sliceEnd : Nat) :
    s.Rewritten { s with cursor := cursor, sliceStart := sliceStart, sliceEnd := sliceEnd }
      s.behind where
  wellFormed := ⟨⟨above, below, wellFormed.end_le_length⟩, wellFormed.marks_le_length⟩
  letters := wellFormed.letters_eq
  windowStart := rfl
  windowEnd := by
    have lower := wellFormed.start_le_cursor
    have upper := wellFormed.cursor_le_end
    rw [wellFormed.length_behind]
    show s.windowEnd = _
    omega
  mode := rfl
  marked := rfl
  firstMark := rfl

/-- An action that moved the cursor and the slice only has not applied. -/
theorem WellFormed.reported (wellFormed : s.WellFormed) {cursor : Nat}
    (above : s.windowStart ≤ cursor) (below : cursor ≤ s.windowEnd) (sliceStart sliceEnd : Nat) :
    s.Reported { s with cursor := cursor, sliceStart := sliceStart, sliceEnd := sliceEnd } false
      s.behind :=
  ⟨wellFormed.rewritten above below sliceStart sliceEnd, by simp, fun _ => ⟨rfl, rfl⟩⟩

/-- An edit that shortens the text behind the cursor, from a place after the first mark. -/
theorem WellFormed.rewritten_replaced (wellFormed : s.WellFormed) {cursor start mark : Nat}
    (above : s.windowStart ≤ cursor) (below : cursor ≤ s.windowEnd)
    (marked : s.marks[0]? = some mark) (inWindow : s.windowStart ≤ mark) (afterMark : mark ≤ start)
    (text : List Char) (shorter : start + text.length < s.cursor) :
    s.Rewritten
      ({ s with cursor := cursor, sliceStart := start, sliceEnd := s.cursor }.replaced
        start s.cursor text)
      (s.behind.take (start - s.windowStart) ++ text) where
  wellFormed := by
    have held : ({ s with cursor := cursor, sliceStart := start, sliceEnd := s.cursor } :
        ScanState).WellFormed :=
      ⟨⟨above, below, wellFormed.end_le_length⟩, wellFormed.marks_le_length⟩
    apply held.replaced text (by omega)
    exact Nat.le_trans wellFormed.cursor_le_end wellFormed.end_le_length
  letters := by
    show s.letters.take start ++ text ++ s.letters.drop s.cursor = _
    rw [take_eq_append_behind (by omega) (by omega),
      List.append_assoc (s.letters.take s.windowStart)]
  windowStart := by
    show shifted start s.cursor text.length s.windowStart = s.windowStart
    exact shifted_of_le_start (by omega) (by omega)
  windowEnd := by
    have upper := wellFormed.cursor_le_end
    have width := wellFormed.length_behind
    show shifted start s.cursor text.length s.windowEnd = _
    rw [shifted_of_stop_le upper, List.length_append, List.length_take]
    omega
  mode := rfl
  marked := List.length_map _
  firstMark := by
    show (s.marks.map _)[0]? = s.marks[0]?
    rw [List.getElem?_map, marked, Option.map_some, shifted_of_le_start afterMark (by omega)]

theorem Rewritten.withCursor (rewritten : s.Rewritten after word) {cursor : Nat}
    (above : after.windowStart ≤ cursor) (below : cursor ≤ after.windowEnd) :
    s.Rewritten { after with cursor := cursor } word :=
  { rewritten with
    wellFormed := ⟨⟨above, below, rewritten.wellFormed.end_le_length⟩,
      rewritten.wellFormed.marks_le_length⟩ }

theorem Rewritten.length_take (rewritten : s.Rewritten after word) (ordered : s.WindowInOrder) :
    (s.letters.take s.windowStart).length = after.windowStart := by
  have fits : s.windowEnd ≤ s.letters.length := ordered.end_le_length
  have lower := ordered.start_le_cursor
  have upper := ordered.cursor_le_end
  rw [rewritten.windowStart, List.length_take]
  omega

/-- With the cursor at its end, the new text is the text behind the cursor. -/
theorem Rewritten.behind_eq (rewritten : s.Rewritten after word) (ordered : s.WindowInOrder)
    (atEnd : after.cursor = s.windowStart + word.length) : after.behind = word := by
  have before := rewritten.length_take ordered
  have start := rewritten.windowStart
  rw [behind, rewritten.letters, atEnd, List.append_assoc, List.take_append, before, start,
    List.take_of_length_le (by omega), Nat.add_sub_cancel_left, List.take_left,
    List.drop_append_of_le_length (by omega), List.drop_of_length_le (by omega),
    List.nil_append]

/-- One rewriting after another rewrites the text that the first started from. -/
theorem Rewritten.trans (first : s.Rewritten after word) (ordered : s.WindowInOrder)
    (atEnd : after.cursor = s.windowStart + word.length)
    (second : after.Rewritten last other) : s.Rewritten last other where
  wellFormed := second.wellFormed
  letters := by
    have before := first.length_take ordered
    have start := first.windowStart
    have outer : after.letters.take after.windowStart = s.letters.take s.windowStart := by
      rw [first.letters, List.append_assoc, List.take_append_of_le_length (by omega),
        List.take_of_length_le (by omega)]
    have rest : after.letters.drop after.cursor = s.letters.drop s.cursor := by
      rw [first.letters, atEnd]
      apply List.drop_left'
      rw [List.length_append]
      omega
    rw [second.letters, outer, rest]
  windowStart := second.windowStart.trans first.windowStart
  windowEnd := by
    rw [second.windowEnd, first.windowStart, first.windowEnd, atEnd]
    omega
  mode := second.mode.trans first.mode
  marked := second.marked.trans first.marked
  firstMark := second.firstMark.trans first.firstMark

end Stemming.ScanState
