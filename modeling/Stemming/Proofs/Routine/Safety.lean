import Stemming.Proofs.Routine.Operations

set_option autoImplicit false

namespace Stemming

/-- All positions are in order, and no window was found not to fit when it was widened. -/
def Note.Clean (markCount : Nat) (note : Note) : Prop :=
  note.state.Ordered markCount ∧ note.misfit = none

/-- An action never traps, and keeps what an operation keeps. -/
def Safe (markCount : Nat) (edits : Bool) {α : Type} (action : Beside (List Note) α) : Prop :=
  ∀ (notes : List Note) (s : ScanState), s.Ordered markCount →
    (∀ note ∈ notes, note.Clean markCount) →
    (action notes s).1.Leaves (s.Follows markCount edits) ∧
      ∀ note ∈ (action notes s).2, note.Clean markCount

/-- A safe action that reports no violation. -/
def Returns (markCount : Nat) (edits : Bool) {α : Type} (action : Beside (List Note) α) : Prop :=
  ∀ (notes : List Note) (s : ScanState), s.Ordered markCount →
    (∀ note ∈ notes, note.Clean markCount) →
    ∃ value after later, action notes s = (.returned value after, later) ∧
      s.Follows markCount edits after ∧ ∀ note ∈ later, note.Clean markCount

section

variable {markCount : Nat} {edits : Bool} {α β : Type}

theorem Returns.safe {action : Beside (List Note) α} (returns : Returns markCount edits action) :
    Safe markCount edits action := by
  intro notes s ordered clean
  obtain ⟨value, after, later, ran, follows, stillClean⟩ := returns notes s ordered clean
  rw [ran]
  exact ⟨follows, stillClean⟩

theorem Outcome.Leaves.trans {outcome : Outcome α} {s after : ScanState}
    (first : s.Follows markCount edits after)
    (leaves : outcome.Leaves (after.Follows markCount edits)) :
    outcome.Leaves (s.Follows markCount edits) := by
  cases outcome with
  | returned _ last => exact first.trans leaves
  | faulted _ last => exact first.trans leaves
  | trapped _ => exact leaves

theorem safe_of_leaves {action : Scan α}
    (leaves : ∀ {s : ScanState}, s.Ordered markCount →
      (action s).Leaves (s.Follows markCount edits)) :
    Safe markCount edits (action : Beside (List Note) α) := by
  intro notes s ordered clean
  exact ⟨leaves ordered, clean⟩

theorem Safe.bind {first : Beside (List Note) α} {next : α → Beside (List Note) β}
    (safe : Safe markCount edits first) (nextSafe : ∀ value, Safe markCount edits (next value)) :
    Safe markCount edits (first >>= next) := by
  intro notes s ordered clean
  have started := safe notes s ordered clean
  cases ran : first notes s with
  | mk outcome later =>
      rw [ran] at started
      cases outcome with
      | returned value after =>
          obtain ⟨follows, stillClean⟩ := started
          rw [Beside.bind_of_returned ran]
          have ended := nextSafe value later after follows.ordered stillClean
          exact ⟨ended.1.trans follows, ended.2⟩
      | faulted violation after =>
          rw [Beside.bind_of_faulted ran]
          exact started
      | trapped trap =>
          rw [Beside.bind_of_trapped ran]
          exact started

theorem Returns.bind {first : Beside (List Note) α} {next : α → Beside (List Note) β}
    (returns : Returns markCount edits first)
    (nextReturns : ∀ value, Returns markCount edits (next value)) :
    Returns markCount edits (first >>= next) := by
  intro notes s ordered clean
  obtain ⟨value, middle, noted, ran, follows, middleClean⟩ := returns notes s ordered clean
  obtain ⟨result, after, later, ranNext, followsNext, stillClean⟩ :=
    nextReturns value noted middle follows.ordered middleClean
  rw [Beside.bind_of_returned ran]
  exact ⟨result, after, later, ranNext, follows.trans followsNext, stillClean⟩

theorem returns_pure (value : α) :
    Returns markCount edits (pure value : Beside (List Note) α) := by
  intro notes s ordered clean
  exact ⟨value, s, notes, rfl, ordered.follows_self, clean⟩

/-- A violation that is caught leaves a safe state, from which the run goes on. -/
theorem Safe.attempt {action : Beside (List Note) α} (safe : Safe markCount edits action) :
    Returns markCount edits (Beside.attempt action) := by
  intro notes s ordered clean
  obtain ⟨leaves, stillClean⟩ := safe notes s ordered clean
  cases ran : action notes s with
  | mk outcome later =>
      rw [ran] at leaves stillClean
      cases outcome with
      | returned value after =>
          exact ⟨_, after, later, Beside.attempt_of_returned ran, leaves, stillClean⟩
      | faulted violation after =>
          exact ⟨_, after, later, Beside.attempt_of_faulted ran, leaves, stillClean⟩
      | trapped trap => exact absurd leaves id

theorem safe_release (result : Except Violation α) :
    Safe markCount edits (Beside.release result) := by
  intro notes s ordered clean
  cases result with
  | ok value => exact ⟨ordered.follows_self, clean⟩
  | error violation => exact ⟨ordered.follows_self, clean⟩

theorem returns_note : Returns markCount edits (Routine.note none) := by
  intro notes s ordered clean
  refine ⟨(), s, ⟨s, none⟩ :: notes, rfl, ordered.follows_self, ?_⟩
  intro note member
  rcases List.mem_cons.mp member with rfl | earlier
  · exact ⟨ordered, rfl⟩
  · exact clean note earlier

theorem Safe.probe {body : Beside (List Note) Bool} (safe : Safe markCount edits body) :
    Safe markCount edits (Scan.probe body) := by
  have saved : Safe markCount edits (Scan.saveCursor : Beside (List Note) SavedCursor) :=
    safe_of_leaves fun ordered => Operation.saveCursor.leaves ordered
  have restored (cursor : SavedCursor) :
      Safe markCount edits (Scan.restoreCursor cursor : Beside (List Note) Unit) :=
    safe_of_leaves fun ordered => (Operation.restoreCursor cursor).leaves ordered
  apply saved.bind
  intro cursor
  apply safe.bind
  intro succeeded
  apply (restored cursor).bind
  intro _
  exact (returns_pure succeeded).safe

/-- The end of the window that a narrowing has moved may be put back after anything that has only
narrowed the window further. -/
theorem follows_widened {s after : ScanState} {direction : Direction} {position : Nat}
    (ordered : s.Ordered markCount) (reaches : s.Reaches direction position)
    (follows : (s.withBound direction position).Follows markCount false after) :
    s.Follows markCount edits (after.withBound direction (s.bound direction)) := by
  have kept := follows.ordered
  have narrows := follows.narrows rfl
  cases direction with
  | forward =>
      have length : after.length = s.length := congrArg List.length narrows.letters
      have outer : after.windowEnd ≤ s.windowEnd := Nat.le_trans narrows.stop reaches.2
      have inWord : s.windowEnd ≤ after.length := by
        rw [length]
        exact ordered.end_le_length
      exact ⟨⟨⟨⟨kept.start_le_cursor, Nat.le_trans kept.cursor_le_end outer, inWord⟩,
        kept.marks_le_length⟩, kept.sliceStart_le_length, kept.sliceEnd_le_length, kept.marked⟩,
        fun _ => ⟨narrows.letters, narrows.start, Nat.le_refl _⟩⟩
  | backward =>
      have outer : s.windowStart ≤ after.windowStart := Nat.le_trans reaches.1 narrows.start
      exact ⟨⟨⟨⟨Nat.le_trans outer kept.start_le_cursor, kept.cursor_le_end,
        kept.end_le_length⟩, kept.marks_le_length⟩, kept.sliceStart_le_length,
        kept.sliceEnd_le_length, kept.marked⟩,
        fun _ => ⟨narrows.letters, Nat.le_refl _, narrows.stop⟩⟩

/-- A narrowed window around anything without edits never fails. -/
theorem Returns.within {body : Beside (List Note) (Option α)}
    (returns : Returns markCount false body) (mark : Fin markCount) (direction : Direction) :
    Returns markCount edits (Scan.within ⟨mark⟩ direction body) := by
  intro notes s ordered clean
  have known : mark.val < s.marks.length := by
    rw [ordered.marked]
    exact mark.isLt
  have found : s.marks[mark.val]? = some s.marks[mark.val] := List.getElem?_eq_getElem known
  by_cases reaches : s.Reaches direction s.marks[mark.val]
  · obtain ⟨value, after, later, ran, follows, stillClean⟩ := returns notes
      (s.withBound direction s.marks[mark.val])
      (ordered.follows_withBound reaches : s.Follows markCount true _).ordered clean
    have widened : s.Follows markCount edits (after.withBound direction (s.bound direction)) :=
      follows_widened ordered reaches follows
    have narrowed : (Scan.narrow ⟨mark⟩ direction : Beside (List Note) (Option Bound)) notes s =
        (.returned (some ⟨direction, s.bound direction⟩)
          (s.withBound direction s.marks[mark.val]), notes) :=
      congrArg (·, notes) (Scan.narrow_of_reaches found reaches)
    refine ⟨value, after.withBound direction (s.bound direction), later, ?_, widened, stillClean⟩
    apply (Beside.bind_of_returned narrowed _).trans
    apply (Beside.bind_of_returned ran _).trans
    have restored : (Scan.widen ⟨direction, s.bound direction⟩ : Beside (List Note) Unit)
        later after = (.returned () (after.withBound direction (s.bound direction)), later) :=
      congrArg (·, later) (Scan.widen_eq widened.ordered.toWellFormed)
    exact (Beside.bind_of_returned restored _).trans rfl
  · have refused : (Scan.narrow ⟨mark⟩ direction : Beside (List Note) (Option Bound)) notes s =
        (.returned none s, notes) :=
      congrArg (·, notes) (Scan.narrow_of_not_reaches found reaches)
    refine ⟨none, s, notes, ?_, ordered.follows_self, clean⟩
    exact (Beside.bind_of_returned refused _).trans rfl

theorem Returns.attempt_bind {action : Beside (List Note) α}
    (returns : Returns markCount edits action) {next : Except Violation α → Beside (List Note) β}
    (nextReturns : ∀ value, Returns markCount edits (next (.ok value))) :
    Returns markCount edits (Beside.attempt action >>= next) := by
  intro notes s ordered clean
  obtain ⟨value, middle, noted, ran, follows, middleClean⟩ := returns notes s ordered clean
  obtain ⟨result, after, later, ranNext, followsNext, stillClean⟩ :=
    nextReturns value noted middle follows.ordered middleClean
  rw [Beside.bind_of_returned (Beside.attempt_of_returned ran)]
  exact ⟨result, after, later, ranNext, follows.trans followsNext, stillClean⟩

/-- Every routine comes to its end: by its parts, each of which is safe by itself. -/
theorem Routine.returns (routine : Routine markCount edits α) :
    Returns markCount edits routine.run := by
  induction routine with
  | done value => exact returns_pure value
  | operate operation next ih =>
      apply (Safe.attempt (safe_of_leaves fun ordered => operation.leaves ordered)).bind
      intro reply
      apply returns_note.bind
      intro _
      exact ih reply
  | edit change next ih =>
      apply (Safe.attempt (safe_of_leaves fun ordered => change.leaves ordered)).bind
      intro reply
      apply returns_note.bind
      intro _
      exact ih reply
  | probe body next bodyReturns ih =>
      have safe := (bodyReturns.safe.bind fun result => safe_release result).probe
      apply safe.attempt.bind
      intro reply
      apply returns_note.bind
      intro _
      exact ih reply
  | within mark direction body next bodyReturns ih =>
      apply (bodyReturns.within mark direction).attempt_bind
      intro found
      apply returns_note.bind
      intro _
      exact ih (.ok found)

/-- Any run of operations on a fresh state, nested to any depth, comes to its end without a trap.
After each operation all positions are in order, and no widened window was ever found not to fit.

A distance across an inverted window and a letter outside the word are traps, so the run has asked
for neither. The differences that are no traps are exact in any state: those that an edit takes if
it is not refused, and those that move the cursor back over letters that are there. -/
theorem Routine.run_ordered (word : List Char) (routine : Routine markCount edits α) :
    (∃ value after notes,
      routine.run [] (.ofWord word markCount) = (.returned value after, notes) ∧
      after.Ordered markCount ∧
      ∀ note ∈ notes, note.state.Ordered markCount ∧ note.misfit = none) ∧
    (∀ (edit : Edit) (s after : ScanState), edit.action s = .returned () after →
      edit.stop s ≤ s.length ∧ edit.start s + (edit.stop s - edit.start s) = edit.stop s ∧
      ∀ position, edit.stop s ≤ position →
        shifted (edit.start s) (edit.stop s) edit.text.length position +
          (edit.stop s - edit.start s) = position + edit.text.length) ∧
    (∀ (s : ScanState) (room count : Nat), s.room? .backward = some room → count ≤ room →
      (s.advance .backward count).cursor + count = s.cursor) ∧
    ∀ (s : ScanState) (letter : Char), Scan.peek .backward s = .returned (some letter) s →
      (s.advance .backward 1).cursor + 1 = s.cursor := by
  refine ⟨?_, fun _ _ _ ran => Edit.exact_of_action_returned ran,
    fun _ _ _ asked fits => ScanState.cursor_advance_add asked fits,
    fun _ _ seen => Scan.cursor_advance_of_peek seen⟩
  obtain ⟨value, after, notes, ran, follows, clean⟩ := routine.returns []
    (.ofWord word markCount) (ScanState.ordered_ofWord word markCount)
    (fun _ member => absurd member List.not_mem_nil)
  exact ⟨value, after, notes, ran, follows.ordered, clean⟩

/-- A window that is narrowed to two letters refuses three, and is widened again. -/
example : ∃ notes, Routine.run (.operate (.setMark 0 2) fun _ =>
    .within 0 .forward (.operate (.hop .forward 3) fun reply => .done (some reply.toOption))
      fun found => .done found.toOption : Routine 1 true (Option (Option (Option Bool))))
    [] (.ofWord ['a', 'b', 'c'] 1) =
    (.returned (some (some (some false))) ⟨['a', 'b', 'c'], 0, 0, 3, 0, 3, [2], .forward⟩, notes) ∧
    notes.map (·.state.windowEnd) = [3, 2, 3] :=
  ⟨_, rfl, rfl⟩

end

end Stemming
