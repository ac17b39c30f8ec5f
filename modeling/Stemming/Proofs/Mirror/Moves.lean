import Stemming.Proofs.Routine.Operations

set_option autoImplicit false

namespace Stemming

namespace ScanState

/-- The state seen from the other end of the word. -/
def mirrored (s : ScanState) : ScanState where
  letters := s.letters.reverse
  cursor := s.length - s.cursor
  windowStart := s.length - s.windowEnd
  windowEnd := s.length - s.windowStart
  sliceStart := s.length - s.sliceEnd
  sliceEnd := s.length - s.sliceStart
  marks := s.marks.map (s.length - ·)
  mode := s.mode

/-- Two states are mirror images of each other. -/
structure MirrorImages (s image : ScanState) : Prop where
  image_eq : image = s.mirrored
  eq_mirrored : s = image.mirrored

variable {markCount : Nat} {s : ScanState}

theorem length_mirrored (s : ScanState) : s.mirrored.length = s.length :=
  List.length_reverse

theorem WindowInOrder.mirrored (ordered : s.WindowInOrder) : s.mirrored.WindowInOrder where
  start_le_cursor := Nat.sub_le_sub_left ordered.cursor_le_end s.length
  cursor_le_end := Nat.sub_le_sub_left ordered.start_le_cursor s.length
  end_le_length := by
    rw [length_mirrored]
    exact Nat.sub_le s.length s.windowStart

theorem Ordered.mirrorImages (ordered : s.Ordered markCount) : s.MirrorImages s.mirrored where
  image_eq := rfl
  eq_mirrored := by
    have back {position : Nat} (inWord : position ≤ s.length) :
        s.mirrored.length - (s.length - position) = position := by
      rw [length_mirrored]
      omega
    have windowEnd := ordered.end_le_length
    have cursor := ordered.cursor_le_length
    have windowStart := Nat.le_trans ordered.start_le_cursor cursor
    have marks : s.mirrored.marks.map (s.mirrored.length - ·) = s.marks :=
      calc (s.marks.map (s.length - ·)).map (s.mirrored.length - ·)
        _ = s.marks.map fun value => s.mirrored.length - (s.length - value) := List.map_map
        _ = s.marks.map id :=
          List.map_congr_left fun value member => back (ordered.marks_le_length value member)
        _ = s.marks := List.map_id s.marks
    show s = ⟨s.letters.reverse.reverse, s.mirrored.length - (s.length - s.cursor),
      s.mirrored.length - (s.length - s.windowStart),
      s.mirrored.length - (s.length - s.windowEnd),
      s.mirrored.length - (s.length - s.sliceStart),
      s.mirrored.length - (s.length - s.sliceEnd),
      s.mirrored.marks.map (s.mirrored.length - ·), s.mode⟩
    rw [List.reverse_reverse, back cursor, back windowStart, back windowEnd,
      back ordered.sliceStart_le_length, back ordered.sliceEnd_le_length, marks]

/-- What a backward scan meets in a state is what a forward scan meets in the mirror image. -/
theorem WindowInOrder.ahead_mirrored (ordered : s.WindowInOrder) :
    s.mirrored.ahead .forward = s.ahead .backward := by
  have fits : s.windowEnd ≤ s.letters.length := ordered.end_le_length
  have above := ordered.start_le_cursor
  have below := ordered.cursor_le_end
  have start : s.letters.length - (s.letters.length - s.windowStart) = s.windowStart := by omega
  have width : s.letters.length - s.windowStart - (s.letters.length - s.cursor) =
      s.cursor - s.windowStart := by omega
  show (s.letters.reverse.take (s.letters.length - s.windowStart)).drop
    (s.letters.length - s.cursor) = ((s.letters.take s.cursor).drop s.windowStart).reverse
  rw [List.take_reverse, start, List.drop_reverse, List.length_drop, width, List.drop_take]

theorem mirrored_advance {count : Nat} (inWord : s.cursor ≤ s.length) (room : count ≤ s.cursor) :
    s.mirrored.advance .forward count = (s.advance .backward count).mirrored := by
  have moved : s.length - s.cursor + count = s.length - (s.cursor - count) := by omega
  simp only [advance, mirrored, moved]

theorem Ordered.mirrorImages_advance (ordered : s.Ordered markCount) {count : Nat}
    (room : count ≤ (s.ahead .backward).length) :
    (s.advance .backward count).MirrorImages (s.mirrored.advance .forward count) := by
  have width := ordered.length_ahead_backward
  have moved : s.Follows markCount false (s.advance .backward count) :=
    ordered.follows_advance .backward room
  rw [mirrored_advance ordered.cursor_le_length (by omega)]
  exact moved.ordered.mirrorImages

theorem Ordered.reaches_mirrored_iff (ordered : s.Ordered markCount) {position : Nat}
    (inWord : position ≤ s.length) :
    s.mirrored.Reaches .forward (s.length - position) ↔ s.Reaches .backward position := by
  have cursor := ordered.cursor_le_length
  have above := ordered.start_le_cursor
  show s.length - s.cursor ≤ s.length - position ∧
    s.length - position ≤ s.length - s.windowStart ↔
    s.windowStart ≤ position ∧ position ≤ s.cursor
  omega

end ScanState

def Direction.opposite : Direction → Direction
  | .forward => .backward
  | .backward => .forward

/-- The same end of the window, seen from the other end of a word of `length` letters. -/
def Bound.mirrored (length : Nat) (bound : Bound) : Bound where
  direction := bound.direction.opposite
  position := length - bound.position

/-- Two actions have both returned, with a value and its image under `turn`, in states that are
mirror images of each other. -/
inductive Outcome.Mirrors {α : Type} (turn : α → α) : Outcome α → Outcome α → Prop
  | returned (value : α) {s image : ScanState} (images : s.MirrorImages image) :
      Mirrors turn (.returned value s) (.returned (turn value) image)

namespace Scan

variable {markCount : Nat} {s : ScanState}

theorem peek_mirrors (ordered : s.Ordered markCount) :
    (peek .backward s).Mirrors id (peek .forward s.mirrored) := by
  rw [peek_eq ordered.toWindowInOrder, peek_eq ordered.toWindowInOrder.mirrored,
    ordered.ahead_mirrored]
  exact .returned _ ordered.mirrorImages

theorem hop_mirrors (ordered : s.Ordered markCount) (count : Nat) :
    (hop .backward count s).Mirrors id (hop .forward count s.mirrored) := by
  rw [hop_eq ordered.toWindowInOrder, hop_eq ordered.toWindowInOrder.mirrored,
    ordered.ahead_mirrored]
  split
  · next room => exact .returned true (ordered.mirrorImages_advance room)
  · exact .returned false ordered.mirrorImages

theorem literal_mirrors (ordered : s.Ordered markCount) (text : List Char) :
    (literal .backward text s).Mirrors id (literal .forward text.reverse s.mirrored) := by
  rw [literal_eq ordered.toWindowInOrder, literal_eq ordered.toWindowInOrder.mirrored,
    ordered.ahead_mirrored, List.length_reverse]
  show Outcome.Mirrors id
    (if text.reverse <+: s.ahead .backward then _ else _)
    (if text.reverse <+: s.ahead .backward then _ else _)
  split
  · next begins =>
    have room := begins.length_le
    rw [List.length_reverse] at room
    exact .returned true (ordered.mirrorImages_advance room)
  · exact .returned false ordered.mirrorImages

variable (set : LetterSet) (membership : Membership)

theorem test_mirrors (ordered : s.Ordered markCount) :
    (test set .backward membership s).Mirrors id
      (test set .forward membership s.mirrored) := by
  rw [test_eq ordered.toWindowInOrder, test_eq ordered.toWindowInOrder.mirrored,
    ordered.ahead_mirrored]
  split
  · next accepted =>
    have room := one_le_length_of_any_head? _ _ accepted
    exact .returned true (ordered.mirrorImages_advance room)
  · exact .returned false ordered.mirrorImages

theorem seek_mirrors (ordered : s.Ordered markCount) :
    (seek set .backward membership s).Mirrors id
      (seek set .forward membership s.mirrored) := by
  rw [seek_eq ordered.toWindowInOrder, seek_eq ordered.toWindowInOrder.mirrored,
    ordered.ahead_mirrored]
  exact .returned _ (ordered.mirrorImages_advance List.findIdx_le_length)

theorem seekPast_mirrors (ordered : s.Ordered markCount) :
    (seekPast set .backward membership s).Mirrors id
      (seekPast set .forward membership s.mirrored) := by
  rw [seekPast_eq ordered.toWindowInOrder, seekPast_eq ordered.toWindowInOrder.mirrored,
    ordered.ahead_mirrored]
  exact .returned _ (ordered.mirrorImages_advance (findIdx_past_le_length _ _))

/-- The lower end of the window moves to a mark as the upper end does in the mirror image, where the
mark is counted from the other end of the word. -/
theorem narrow_mirrors (ordered : s.Ordered markCount) {mark : Mark}
    (known : mark.index < s.marks.length) :
    (narrow mark .backward s).Mirrors (Option.map (Bound.mirrored s.length))
      (narrow mark .forward s.mirrored) := by
  have found : s.marks[mark.index]? = some s.marks[mark.index] := List.getElem?_eq_getElem known
  have image : s.mirrored.marks[mark.index]? = some (s.length - s.marks[mark.index]) := by
    rw [ScanState.mirrored, List.getElem?_map, found, Option.map_some]
  have both := ordered.reaches_mirrored_iff
    (ordered.marks_le_length s.marks[mark.index] (List.getElem_mem known))
  by_cases reaches : s.Reaches .backward s.marks[mark.index]
  · have narrowed : s.Follows markCount false (s.withBound .backward s.marks[mark.index]) :=
      ordered.follows_withBound reaches
    rw [narrow_of_reaches found reaches, narrow_of_reaches image (both.mpr reaches)]
    exact .returned (some (⟨.backward, s.windowStart⟩ : Bound)) narrowed.ordered.mirrorImages
  · rw [narrow_of_not_reaches found reaches,
      narrow_of_not_reaches image fun reached => reaches (both.mp reached)]
    exact .returned none ordered.mirrorImages

theorem narrow_absent_mirrors {mark : Mark} (absent : s.marks.length ≤ mark.index) :
    narrow mark .backward s = .trapped .noSuchMark ∧
      narrow mark .forward s.mirrored = .trapped .noSuchMark := by
  have image : s.mirrored.marks.length ≤ mark.index := by
    rw [ScanState.mirrored, List.length_map]
    exact absent
  exact ⟨narrow_of_absent absent .backward, narrow_of_absent image .forward⟩

end Scan

end Stemming
