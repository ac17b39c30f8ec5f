import Mathlib.Data.List.Basic
import Stemming.LetterSet
import Stemming.RuleTable.Search

set_option autoImplicit false

namespace Stemming.ScanState

variable {s : ScanState}

namespace WindowInOrder

theorem length_ahead_forward (ordered : s.WindowInOrder) :
    (s.ahead .forward).length = s.windowEnd - s.cursor := by
  have : s.windowEnd ≤ s.letters.length := ordered.end_le_length
  simp only [ahead, List.length_drop, List.length_take]
  omega

theorem length_ahead_backward (ordered : s.WindowInOrder) :
    (s.ahead .backward).length = s.cursor - s.windowStart := by
  have : s.windowEnd ≤ s.letters.length := ordered.end_le_length
  have := ordered.cursor_le_end
  simp only [ahead, List.length_reverse, List.length_drop, List.length_take]
  omega

theorem room?_eq (ordered : s.WindowInOrder) (direction : Direction) :
    s.room? direction = some (s.ahead direction).length := by
  cases direction with
  | forward => rw [ordered.length_ahead_forward, room?, if_pos ordered.cursor_le_end]
  | backward => rw [ordered.length_ahead_backward, room?, if_pos ordered.start_le_cursor]

theorem getElem?_ahead_backward (ordered : s.WindowInOrder) {distance : Nat}
    (inside : distance < (s.ahead .backward).length) :
    (s.ahead .backward)[distance]? = s.letters[s.cursor - (distance + 1)]? := by
  have room := ordered.length_ahead_backward
  have : s.windowEnd ≤ s.letters.length := ordered.end_le_length
  have := ordered.cursor_le_end
  have width : ((s.letters.take s.cursor).drop s.windowStart).length =
      s.cursor - s.windowStart := by
    simpa only [ahead, List.length_reverse] using room
  rw [ahead, List.getElem?_reverse (by rw [width]; omega), width, List.getElem?_drop,
    List.getElem?_take_of_lt (by omega)]
  congr 1
  omega

theorem getElem?_ahead_forward {distance : Nat} (inside : s.cursor + distance < s.windowEnd) :
    (s.ahead .forward)[distance]? = s.letters[s.cursor + distance]? := by
  rw [ahead, List.getElem?_drop, List.getElem?_take_of_lt inside]

/-- A letter that a search asks for is the letter of the text ahead, and none at its end. -/
theorem letterAway_eq (ordered : s.WindowInOrder) (direction : Direction) {distance : Nat}
    (inside : distance ≤ (s.ahead direction).length) :
    s.letterAway direction distance = .ok (s.ahead direction)[distance]? := by
  have fits : s.windowEnd ≤ s.letters.length := ordered.end_le_length
  have below := ordered.cursor_le_end
  have above := ordered.start_le_cursor
  cases direction with
  | forward =>
      have room := ordered.length_ahead_forward
      by_cases atEnd : s.cursor + distance = s.windowEnd
      · rw [letterAway, if_pos atEnd, List.getElem?_eq_none (by omega)]
      · have found : s.letters[s.cursor + distance]? = some s.letters[s.cursor + distance] :=
          List.getElem?_eq_getElem (by omega)
        have seen : (s.ahead .forward)[distance]? = some s.letters[s.cursor + distance] :=
          (getElem?_ahead_forward (by omega)).trans found
        simp only [letterAway, if_neg atEnd, found, seen]
  | backward =>
      have room := ordered.length_ahead_backward
      by_cases atStart : s.cursor = s.windowStart + distance
      · rw [letterAway, if_pos atStart, List.getElem?_eq_none (by omega)]
      · have found : s.letters[s.cursor - (distance + 1)]? =
            some s.letters[s.cursor - (distance + 1)] := List.getElem?_eq_getElem (by omega)
        have reaches : ¬ s.cursor ≤ distance := by omega
        have seen : (s.ahead .backward)[distance]? = some s.letters[s.cursor - (distance + 1)] :=
          (ordered.getElem?_ahead_backward (by omega)).trans found
        simp only [letterAway, if_neg atStart, if_neg reaches, found, seen]

theorem advance (ordered : s.WindowInOrder) (direction : Direction) {count : Nat}
    (room : count ≤ (s.ahead direction).length) : (s.advance direction count).WindowInOrder := by
  have below := ordered.cursor_le_end
  have above := ordered.start_le_cursor
  cases direction with
  | forward =>
      rw [ordered.length_ahead_forward] at room
      exact ⟨by simp only [ScanState.advance]; omega, by simp only [ScanState.advance]; omega,
        ordered.end_le_length⟩
  | backward =>
      rw [ordered.length_ahead_backward] at room
      exact ⟨by simp only [ScanState.advance]; omega, by simp only [ScanState.advance]; omega,
        ordered.end_le_length⟩

theorem ahead_advance (ordered : s.WindowInOrder) (direction : Direction) {count : Nat}
    (room : count ≤ (s.ahead direction).length) :
    (s.advance direction count).ahead direction = (s.ahead direction).drop count := by
  cases direction with
  | forward => simp only [ScanState.advance, ahead, List.drop_drop]
  | backward =>
      have fits : s.windowEnd ≤ s.letters.length := ordered.end_le_length
      have below := ordered.cursor_le_end
      rw [ordered.length_ahead_backward] at room
      simp only [ScanState.advance, ahead, List.drop_reverse, List.length_drop, List.length_take,
        List.take_drop, List.take_take]
      congr 3
      omega

end WindowInOrder

@[simp] theorem advance_zero (direction : Direction) : s.advance direction 0 = s := by
  cases direction <;> rfl

/-- Within the room there is, the cursor never goes below zero. -/
theorem cursor_advance_add {room count : Nat} (asked : s.room? .backward = some room)
    (fits : count ≤ room) : (s.advance .backward count).cursor + count = s.cursor := by
  rw [room?] at asked
  split at asked
  · have left := Option.some.inj asked
    simp only [advance]
    omega
  · cases asked

theorem advance_advance (direction : Direction) (first second : Nat) :
    (s.advance direction first).advance direction second =
      s.advance direction (first + second) := by
  cases direction with
  | forward => simp only [advance, Nat.add_assoc]
  | backward => simp only [advance, Nat.sub_sub]

end Stemming.ScanState
