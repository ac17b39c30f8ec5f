import Mathlib.Data.List.Basic
import Stemming.Scan.Region

set_option autoImplicit false

namespace Stemming

namespace ScanState

variable {s : ScanState}

theorem strayMark?_eq_none_iff : s.strayMark? = none ↔ ∀ value ∈ s.marks, value ≤ s.length := by
  rw [strayMark?, List.find?_eq_none]
  constructor
  · intro inside value member
    obtain ⟨index, found⟩ := List.mem_iff_getElem?.mp member
    have checked := inside (value, index) (List.mem_zipIdx_iff_getElem?.mpr found)
    exact Nat.le_of_not_lt (by simpa using checked)
  · intro inside pair member
    obtain ⟨value, index⟩ := pair
    have found := List.mem_zipIdx_iff_getElem?.mp member
    have fits := inside value (List.mem_of_getElem? found)
    simpa using fits

theorem violation?_eq_none_iff : s.violation? = none ↔ s.WellFormed := by
  unfold violation?
  by_cases ordered : s.WindowInOrder
  · rw [if_pos ordered, Option.map_eq_none_iff, strayMark?_eq_none_iff]
    exact ⟨fun inside => ⟨ordered, inside⟩, fun wellFormed => wellFormed.marks_le_length⟩
  · rw [if_neg ordered]
    constructor
    · intro impossible
      contradiction
    · intro wellFormed
      exact absurd wellFormed.toWindowInOrder ordered

theorem marks_set_le {marks : List Nat} {bound : Nat} (inside : ∀ value ∈ marks, value ≤ bound)
    (index : Nat) {position : Nat} (fits : position ≤ bound) :
    ∀ value ∈ marks.set index position, value ≤ bound := by
  intro value member
  rcases List.mem_or_eq_of_mem_set member with old | rfl
  · exact inside value old
  · exact fits

theorem WindowInOrder.withBound (ordered : s.WindowInOrder) {direction : Direction}
    {position : Nat} (reaches : s.Reaches direction position) :
    (s.withBound direction position).WindowInOrder := by
  cases direction with
  | forward =>
      exact ⟨ordered.start_le_cursor, reaches.1, Nat.le_trans reaches.2 ordered.end_le_length⟩
  | backward => exact ⟨reaches.2, ordered.cursor_le_end, ordered.end_le_length⟩

theorem WellFormed.withBound (wellFormed : s.WellFormed) {direction : Direction} {position : Nat}
    (reaches : s.Reaches direction position) : (s.withBound direction position).WellFormed := by
  refine ⟨wellFormed.toWindowInOrder.withBound reaches, ?_⟩
  cases direction with
  | forward => exact wellFormed.marks_le_length
  | backward => exact wellFormed.marks_le_length

end ScanState

namespace Scan

variable {α : Type} {s after : ScanState} {mark : Mark} {direction : Direction} {position : Nat}

theorem checkInvariants_eq (wellFormed : s.WellFormed) :
    checkInvariants s = .returned () s := by
  simp only [checkInvariants, ScanState.violation?_eq_none_iff.mpr wellFormed]

theorem readMark_eq (found : s.marks[mark.index]? = some position) :
    readMark mark s = .returned position s := by
  simp only [readMark, found]

theorem setMark_eq (inWord : position ≤ s.length) (known : mark.index < s.marks.length) :
    setMark mark position s =
      .returned () { s with marks := s.marks.set mark.index position } := by
  rw [setMark, if_neg (by omega), if_pos known]

theorem setCursor_eq (above : s.windowStart ≤ position) (below : position ≤ s.windowEnd) :
    setCursor position s = .returned () { s with cursor := position } := by
  rw [setCursor, if_neg (by omega)]

theorem narrow_of_reaches (found : s.marks[mark.index]? = some position)
    (reaches : s.Reaches direction position) :
    narrow mark direction s =
      .returned (some ⟨direction, s.bound direction⟩) (s.withBound direction position) := by
  apply (bind_of_returned (readMark_eq found) _).trans
  exact if_pos reaches

theorem narrow_of_not_reaches (found : s.marks[mark.index]? = some position)
    (reaches : ¬ s.Reaches direction position) :
    narrow mark direction s = .returned none s := by
  apply (bind_of_returned (readMark_eq found) _).trans
  exact if_neg reaches

theorem narrow_of_absent (absent : s.marks.length ≤ mark.index) (direction : Direction) :
    narrow mark direction s = .trapped .noSuchMark := by
  have missing : readMark mark s = .trapped .noSuchMark := by
    simp only [readMark, List.getElem?_eq_none absent]
  apply (bind_apply _ _ s).trans
  rw [missing]

theorem widen_eq {bound : Bound}
    (wellFormed : (s.withBound bound.direction bound.position).WellFormed) :
    widen bound s = .returned () (s.withBound bound.direction bound.position) := by
  rw [widen, bind_of_returned (update_apply _ s)]
  exact checkInvariants_eq wellFormed

theorem within_eq (body : Scan (Option α)) : within mark direction body = (do
    match ← narrow mark direction with
    | none => return none
    | some bound =>
      let found ← body
      widen bound
      return found) := rfl

theorem within_of_reaches {body : Scan (Option α)} {value : Option α}
    (found : s.marks[mark.index]? = some position) (reaches : s.Reaches direction position)
    (ran : body (s.withBound direction position) = .returned value after)
    (wellFormed : (after.withBound direction (s.bound direction)).WellFormed) :
    within mark direction body s =
      .returned value (after.withBound direction (s.bound direction)) := by
  have widened : widen ⟨direction, s.bound direction⟩ after =
      .returned () (after.withBound direction (s.bound direction)) := widen_eq wellFormed
  rw [within_eq, bind_of_returned (narrow_of_reaches found reaches)]
  simp only [bind_of_returned ran, bind_of_returned widened]
  rfl

theorem within_of_not_reaches (found : s.marks[mark.index]? = some position)
    (reaches : ¬ s.Reaches direction position) (body : Scan (Option α)) :
    within mark direction body s = .returned none s := by
  rw [within_eq, bind_of_returned (narrow_of_not_reaches found reaches)]
  rfl

theorem probe_eq (body : Scan Bool) : probe body = (do
    let saved ← saveCursor
    let succeeded ← body
    restoreCursor saved
    return succeeded) := rfl

theorem saveCursor_of_forward (forward : s.mode = .forward) :
    saveCursor s = .returned (.fromStart s.cursor) s := by
  simp only [saveCursor, forward]

theorem saveCursor_of_backward (backward : s.mode = .backward) (below : s.cursor ≤ s.windowEnd) :
    saveCursor s = .returned (.fromEnd (s.windowEnd - s.cursor)) s := by
  simp only [saveCursor, backward, ScanState.room?, if_pos below]

theorem restoreCursor_fromEnd {distance : Nat} (above : s.windowStart + distance ≤ s.windowEnd) :
    restoreCursor (.fromEnd distance) s =
      .returned () { s with cursor := s.windowEnd - distance } := by
  simp only [restoreCursor]
  rw [if_pos (by omega)]
  exact setCursor_eq (by omega) (by omega)

/-- In forward mode a probe puts the cursor back to the position where it was. -/
theorem probe_of_forward {body : Scan Bool} {succeeded : Bool} (forward : s.mode = .forward)
    (ran : body s = .returned succeeded after) (above : after.windowStart ≤ s.cursor)
    (below : s.cursor ≤ after.windowEnd) :
    probe body s = .returned succeeded { after with cursor := s.cursor } := by
  have restored : restoreCursor (.fromStart s.cursor) after =
      .returned () { after with cursor := s.cursor } := setCursor_eq above below
  rw [probe_eq, bind_of_returned (saveCursor_of_forward forward), bind_of_returned ran,
    bind_of_returned restored]
  rfl

/-- In backward mode a probe puts the cursor back to the distance from the end of the window that
it had. -/
theorem probe_of_backward {body : Scan Bool} {succeeded : Bool} (backward : s.mode = .backward)
    (below : s.cursor ≤ s.windowEnd) (ran : body s = .returned succeeded after)
    (above : after.windowStart + (s.windowEnd - s.cursor) ≤ after.windowEnd) :
    probe body s = .returned succeeded
      { after with cursor := after.windowEnd - (s.windowEnd - s.cursor) } := by
  rw [probe_eq, bind_of_returned (saveCursor_of_backward backward below), bind_of_returned ran,
    bind_of_returned (restoreCursor_fromEnd above)]
  rfl

/-- Around an action that leaves the window where it was, a probe restores the cursor exactly. -/
theorem probe_of_same_window {body : Scan Bool} {succeeded : Bool} (ordered : s.WindowInOrder)
    (ran : body s = .returned succeeded after) (sameStart : after.windowStart = s.windowStart)
    (sameEnd : after.windowEnd = s.windowEnd) :
    probe body s = .returned succeeded { after with cursor := s.cursor } := by
  have above := ordered.start_le_cursor
  have below := ordered.cursor_le_end
  cases mode : s.mode with
  | forward => exact probe_of_forward mode ran (by omega) (by omega)
  | backward =>
      rw [probe_of_backward mode below ran (by omega)]
      have back : after.windowEnd - (s.windowEnd - s.cursor) = s.cursor := by omega
      rw [back]

end Scan

end Stemming
