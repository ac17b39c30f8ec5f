import Stemming.Proofs.Routine.Keeping

set_option autoImplicit false

namespace Stemming

namespace ScanState

/-- A run without edits: the cursor moves, the window is narrowed, and bounds that were obtained are
put back, also after a violation. The bounds that were not put back yet stand in a list, the latest
first. If `inTurn` is true, always the latest is put back. -/
inductive Windowed (s : ScanState) (inTurn : Bool) : ScanState → List Bound → Prop where
  | none : s.Windowed inTurn s []
  | moved {after last : ScanState} {held : List Bound} {markCount : Nat} {β : Type}
      (earlier : s.Windowed inTurn after held) {operation : Operation markCount β}
      (moves : operation.MovesCursor) (left : (operation.action after).state? = some last) :
      s.Windowed inTurn last held
  | narrowed {after last : ScanState} {held : List Bound} {mark : Mark} {direction : Direction}
      {bound : Bound} (earlier : s.Windowed inTurn after held)
      (ran : Scan.narrow mark direction after = .returned (some bound) last) :
      s.Windowed inTurn last (bound :: held)
  | widened {after last : ScanState} {later held : List Bound} {bound : Bound}
      (earlier : s.Windowed inTurn after (later ++ bound :: held))
      (turn : inTurn = true → later = []) (left : (Scan.widen bound after).state? = some last) :
      s.Windowed inTurn last (later ++ held)

/-- What any such run keeps: the word, the marks, and no end of the window beyond the word, be it a
present one or one to be put back. -/
structure Bounded (s after : ScanState) (held : List Bound) : Prop where
  letters : after.letters = s.letters
  marks : after.marks = s.marks
  end_le : after.windowEnd ≤ s.length
  held_le : ∀ bound ∈ held, bound.direction = .forward → bound.position ≤ s.length

variable {s after last : ScanState} {inTurn : Bool} {held later : List Bound} {bound : Bound}

theorem Bounded.wellFormed_marks (bounded : s.Bounded after held) (wellFormed : s.WellFormed) :
    ∀ value ∈ after.marks, value ≤ after.length := by
  intro value member
  rw [bounded.marks] at member
  show value ≤ after.letters.length
  rw [bounded.letters]
  exact wellFormed.marks_le_length value member

theorem Bounded.widen_eq (bounded : s.Bounded after held) (wellFormed : s.WellFormed)
    (bound : Bound) :
    (Scan.widen bound after).state? = some (after.withBound bound.direction bound.position) ∧
      (Scan.widen bound after = .returned () (after.withBound bound.direction bound.position) ↔
        (after.withBound bound.direction bound.position).WindowInOrder) := by
  rw [Scan.widen_eq_ite (bounded.wellFormed_marks wellFormed)]
  split
  · next ordered => exact ⟨rfl, iff_of_true rfl ordered⟩
  · next disordered => exact ⟨rfl, iff_of_false nofun disordered⟩

theorem Bounded.moved (bounded : s.Bounded after held) (moved : after.Moved last) :
    s.Bounded last held := by
  obtain ⟨cursor, rfl⟩ := moved
  exact ⟨bounded.letters, bounded.marks, bounded.end_le, bounded.held_le⟩

theorem Bounded.narrowed (bounded : s.Bounded after held) {direction : Direction} {position : Nat}
    (reaches : after.Reaches direction position) :
    s.Bounded (after.withBound direction position)
      (⟨direction, after.bound direction⟩ :: held) := by
  cases direction with
  | forward =>
      refine ⟨bounded.letters, bounded.marks, Nat.le_trans reaches.2 bounded.end_le, ?_⟩
      intro bound member forward
      rcases List.mem_cons.mp member with rfl | member
      · exact bounded.end_le
      · exact bounded.held_le bound member forward
  | backward =>
      refine ⟨bounded.letters, bounded.marks, bounded.end_le, ?_⟩
      intro bound member forward
      rcases List.mem_cons.mp member with rfl | member
      · cases forward
      · exact bounded.held_le bound member forward

theorem Bounded.widened (bounded : s.Bounded after (later ++ bound :: held)) :
    s.Bounded (after.withBound bound.direction bound.position) (later ++ held) := by
  have others : ∀ other ∈ later ++ held,
      other.direction = .forward → other.position ≤ s.length := by
    intro other member
    apply bounded.held_le other
    rcases List.mem_append.mp member with before | behind
    · exact List.mem_append_left _ before
    · exact List.mem_append_right _ (List.mem_cons_of_mem bound behind)
  have fits := bounded.held_le bound (List.mem_append_right _ List.mem_cons_self)
  obtain ⟨direction, position⟩ := bound
  cases direction with
  | forward => exact ⟨bounded.letters, bounded.marks, fits rfl, others⟩
  | backward => exact ⟨bounded.letters, bounded.marks, bounded.end_le, others⟩

theorem Windowed.bounded (windowed : s.Windowed inTurn after held) (wellFormed : s.WellFormed) :
    s.Bounded after held := by
  induction windowed with
  | none => exact ⟨rfl, rfl, wellFormed.end_le_length, nofun⟩
  | moved earlier moves left ih => exact ih.moved (moves.keeps.related left)
  | narrowed earlier ran ih =>
      obtain ⟨position, reaches, rfl, rfl⟩ := Scan.reaches_of_narrow ran
      exact ih.narrowed reaches
  | @widened after last later held bound earlier turn left ih =>
      rw [(ih.widen_eq wellFormed bound).1] at left
      cases left
      exact ih.widened

/-- The cursor is not beyond a position at which an end of the window was. -/
def Inside (s : ScanState) (bound : Bound) : Prop :=
  match bound.direction with
  | .forward => s.cursor ≤ bound.position
  | .backward => bound.position ≤ s.cursor

/-- A window in order is in order with an end of it put back just if the cursor has not passed that
end. -/
theorem Bounded.withBound_inOrder_iff (bounded : s.Bounded after held) (member : bound ∈ held)
    (ordered : after.WindowInOrder) :
    (after.withBound bound.direction bound.position).WindowInOrder ↔ after.Inside bound := by
  have fits := bounded.held_le bound member
  obtain ⟨direction, position⟩ := bound
  cases direction with
  | forward =>
      have inWord : position ≤ after.letters.length := by
        rw [bounded.letters]
        exact fits rfl
      exact ⟨fun inOrder => inOrder.cursor_le_end,
        fun inside => ⟨ordered.start_le_cursor, inside, inWord⟩⟩
  | backward =>
      exact ⟨fun inOrder => inOrder.start_le_cursor,
        fun inside => ⟨inside, ordered.cursor_le_end, ordered.end_le_length⟩⟩

/-- Each of the bounds lies outside the window as it is when the bounds before it in the list have
been put back. -/
def Nests : List Bound → ScanState → Prop
  | [], _ => True
  | bound :: held, s =>
    (match bound.direction with
      | .forward => s.windowEnd ≤ bound.position
      | .backward => bound.position ≤ s.windowStart) ∧
    Nests held (s.withBound bound.direction bound.position)

theorem Nests.moved (nests : after.Nests held) (moved : after.Moved last) : last.Nests held := by
  obtain ⟨cursor, rfl⟩ := moved
  induction held generalizing after with
  | nil => trivial
  | cons bound held ih =>
      obtain ⟨direction, position⟩ := bound
      obtain ⟨outside, rest⟩ := nests
      cases direction with
      | forward => exact ⟨outside, ih rest⟩
      | backward => exact ⟨outside, ih rest⟩

theorem Nests.narrowed (nests : after.Nests held) {direction : Direction} {position : Nat}
    (reaches : after.Reaches direction position) :
    (after.withBound direction position).Nests (⟨direction, after.bound direction⟩ :: held) := by
  cases direction with
  | forward => exact ⟨reaches.2, nests⟩
  | backward => exact ⟨reaches.1, nests⟩

theorem Nests.inside (nests : after.Nests (bound :: held)) (ordered : after.WindowInOrder) :
    after.Inside bound := by
  obtain ⟨direction, position⟩ := bound
  cases direction with
  | forward => exact Nat.le_trans ordered.cursor_le_end nests.1
  | backward => exact Nat.le_trans nests.1 ordered.start_le_cursor

/-- As long as bounds come back in turn, the window is in order and lies inside the bounds. -/
theorem Windowed.nests (windowed : s.Windowed true after held) (wellFormed : s.WellFormed) :
    after.WindowInOrder ∧ after.Nests held := by
  induction windowed with
  | none => exact ⟨wellFormed.toWindowInOrder, trivial⟩
  | moved earlier moves left ih =>
      have inOrder := ((moves.framed ih.1).leaves ih.1 fun _ inOrder => inOrder).of_state? left
      exact ⟨inOrder, ih.2.moved (moves.keeps.related left)⟩
  | narrowed earlier ran ih =>
      obtain ⟨position, reaches, rfl, rfl⟩ := Scan.reaches_of_narrow ran
      exact ⟨ih.1.withBound reaches, ih.2.narrowed reaches⟩
  | @widened after last later held bound earlier turn left ih =>
      cases turn rfl
      have bounded := earlier.bounded wellFormed
      rw [(bounded.widen_eq wellFormed bound).1] at left
      cases left
      exact ⟨(bounded.withBound_inOrder_iff List.mem_cons_self ih.1).mpr (ih.2.inside ih.1),
        ih.2.2⟩

end ScanState

/-- Whatever cursor moves, narrowings and widenings have gone before, a bound that comes back is put
back, and it is accepted just if the window is in order with it. A window that was in order still is
just if the cursor has not passed that bound. If the bounds come back in turn, the window is in
order at any time, and every bound is accepted. -/
theorem Scan.widen_keeps_window_iff {s : ScanState} (wellFormed : s.WellFormed) :
    (∀ after held bound, s.Windowed false after held → bound ∈ held →
      (widen bound after).state? = some (after.withBound bound.direction bound.position) ∧
      (widen bound after = .returned () (after.withBound bound.direction bound.position) ↔
        (after.withBound bound.direction bound.position).WindowInOrder) ∧
      (after.WindowInOrder →
        ((after.withBound bound.direction bound.position).WindowInOrder ↔ after.Inside bound))) ∧
    (∀ after held, s.Windowed true after held → after.WindowInOrder) ∧
    ∀ after held bound, s.Windowed true after (bound :: held) →
      widen bound after = .returned () (after.withBound bound.direction bound.position) := by
  refine ⟨?_, fun after held windowed => (windowed.nests wellFormed).1, ?_⟩
  · intro after held bound windowed member
    have bounded := windowed.bounded wellFormed
    obtain ⟨left, accepted⟩ := bounded.widen_eq wellFormed bound
    exact ⟨left, accepted, bounded.withBound_inOrder_iff member⟩
  · intro after held bound windowed
    have bounded := windowed.bounded wellFormed
    obtain ⟨ordered, nests⟩ := windowed.nests wellFormed
    apply (bounded.widen_eq wellFormed bound).2.mpr
    exact (bounded.withBound_inOrder_iff List.mem_cons_self ordered).mpr (nests.inside ordered)

/-- The window is narrowed to the second letter on, the cursor goes there, and the bound comes
back. -/
theorem Scan.widen_keeps_window_iff_abc :
    ScanState.WindowInOrder ⟨['a', 'b', 'c'], 1, 1, 3, 0, 3, [1, 2], .forward⟩ ∧
    widen ⟨.backward, 0⟩ ⟨['a', 'b', 'c'], 1, 1, 3, 0, 3, [1, 2], .forward⟩ =
      .returned () ⟨['a', 'b', 'c'], 1, 0, 3, 0, 3, [1, 2], .forward⟩ := by
  have wellFormed : ScanState.WellFormed
      ⟨['a', 'b', 'c'], 2, 0, 3, 0, 3, [1, 2], .forward⟩ := by decide
  have narrowing : narrow ⟨0⟩ .backward ⟨['a', 'b', 'c'], 2, 0, 3, 0, 3, [1, 2], .forward⟩ =
      .returned (some ⟨.backward, 0⟩) ⟨['a', 'b', 'c'], 2, 1, 3, 0, 3, [1, 2], .forward⟩ := rfl
  have moves : Operation.MovesCursor (.setCursor 1 : Operation 2 Unit) := trivial
  have moved : ScanState.Windowed ⟨['a', 'b', 'c'], 2, 0, 3, 0, 3, [1, 2], .forward⟩ true
      ⟨['a', 'b', 'c'], 1, 1, 3, 0, 3, [1, 2], .forward⟩ [⟨.backward, 0⟩] :=
    .moved (.narrowed .none narrowing) moves rfl
  obtain ⟨_, inOrder, accepted⟩ := widen_keeps_window_iff wellFormed
  exact ⟨inOrder _ _ moved, accepted _ _ _ moved⟩

/-- The window is narrowed twice, and the first bound comes back first. Then the cursor goes to the
start of the word, before the second bound, which comes back nevertheless. The violation is reported
with the window out of order. -/
theorem Scan.widen_passes_cursor_abc :
    ScanState.WellFormed ⟨['a', 'b', 'c'], 2, 0, 3, 0, 3, [1, 2], .forward⟩ ∧
      ScanState.Windowed ⟨['a', 'b', 'c'], 2, 0, 3, 0, 3, [1, 2], .forward⟩ false
        ⟨['a', 'b', 'c'], 0, 0, 3, 0, 3, [1, 2], .forward⟩ [⟨.backward, 1⟩] ∧
      widen ⟨.backward, 1⟩ ⟨['a', 'b', 'c'], 0, 0, 3, 0, 3, [1, 2], .forward⟩ =
        .faulted (.cursorOutsideWindow 0 1 3 3)
          ⟨['a', 'b', 'c'], 0, 1, 3, 0, 3, [1, 2], .forward⟩ ∧
      ScanState.WindowInOrder ⟨['a', 'b', 'c'], 0, 0, 3, 0, 3, [1, 2], .forward⟩ ∧
      ¬ ScanState.WindowInOrder ⟨['a', 'b', 'c'], 0, 1, 3, 0, 3, [1, 2], .forward⟩ := by
  have toSecond : narrow ⟨0⟩ .backward ⟨['a', 'b', 'c'], 2, 0, 3, 0, 3, [1, 2], .forward⟩ =
      .returned (some ⟨.backward, 0⟩) ⟨['a', 'b', 'c'], 2, 1, 3, 0, 3, [1, 2], .forward⟩ := rfl
  have toThird : narrow ⟨1⟩ .backward ⟨['a', 'b', 'c'], 2, 1, 3, 0, 3, [1, 2], .forward⟩ =
      .returned (some ⟨.backward, 1⟩) ⟨['a', 'b', 'c'], 2, 2, 3, 0, 3, [1, 2], .forward⟩ := rfl
  have narrowed : ScanState.Windowed ⟨['a', 'b', 'c'], 2, 0, 3, 0, 3, [1, 2], .forward⟩ false
      ⟨['a', 'b', 'c'], 2, 2, 3, 0, 3, [1, 2], .forward⟩
      ([⟨.backward, 1⟩] ++ ⟨.backward, 0⟩ :: []) :=
    .narrowed (.narrowed .none toSecond) toThird
  have moves : Operation.MovesCursor (.setCursor 0 : Operation 2 Unit) := trivial
  have moved : ScanState.Windowed ⟨['a', 'b', 'c'], 2, 0, 3, 0, 3, [1, 2], .forward⟩ false
      ⟨['a', 'b', 'c'], 0, 0, 3, 0, 3, [1, 2], .forward⟩ [⟨.backward, 1⟩] :=
    .moved (.widened narrowed nofun rfl) moves rfl
  exact ⟨by decide, moved, by decide, by decide, by decide⟩

end Stemming
