import Stemming.Proofs.Routine.Basic
import Stemming.Proofs.Scan.Edits

set_option autoImplicit false

namespace Stemming

namespace Edit

/-- Where the letters begin that an edit replaces. -/
def start (s : ScanState) : Edit → Nat
  | .deleteSlice | .replaceSlice _ => s.sliceStart
  | .insert position _ => position

def stop (s : ScanState) : Edit → Nat
  | .deleteSlice | .replaceSlice _ => s.sliceEnd
  | .insert position _ => position

def text : Edit → List Char
  | .deleteSlice => []
  | .replaceSlice text | .insert _ text => text

/-- An insertion has to be inside the word; any other edit needs the slice in order. -/
def Fits (s : ScanState) : Edit → Prop
  | .deleteSlice | .replaceSlice _ => s.SliceInOrder
  | .insert position _ => position ≤ s.length

variable {s after : ScanState} {edit : Edit}

theorem Fits.spans (fits : edit.Fits s) :
    edit.start s ≤ edit.stop s ∧ edit.stop s ≤ s.length := by
  cases edit with
  | deleteSlice => exact ⟨fits.1, Nat.le_trans fits.2.1 fits.2.2⟩
  | replaceSlice text => exact ⟨fits.1, Nat.le_trans fits.2.1 fits.2.2⟩
  | insert position text => exact ⟨Nat.le_refl _, fits⟩

/-- An edit that fits replaces the letters between its two positions by its text. -/
theorem action_of_fits (fits : edit.Fits s) :
    edit.action s = .returned () (s.replaced (edit.start s) (edit.stop s) edit.text) := by
  cases edit with
  | deleteSlice => exact Scan.replaceSlice_eq fits []
  | replaceSlice text => exact Scan.replaceSlice_eq fits text
  | insert position text => exact Scan.replaceRange_eq (Nat.le_refl _) fits text

theorem action_of_not_fits (refused : ¬ edit.Fits s) :
    edit.action s = .faulted (s.sliceViolation (edit.start s) (edit.stop s)) s := by
  cases edit with
  | deleteSlice => exact if_neg refused
  | replaceSlice text => exact if_neg refused
  | insert position text => exact if_neg fun inside => refused inside.2

theorem action_returned_iff :
    edit.action s = .returned () after ↔
      edit.Fits s ∧ after = s.replaced (edit.start s) (edit.stop s) edit.text := by
  by_cases fits : edit.Fits s
  · simp only [action_of_fits fits, Outcome.returned.injEq, fits, true_and, eq_comm]
  · simp only [action_of_not_fits fits, fits, reduceCtorEq, false_and]

/-- An edit that is not refused replaces letters of the word, and the differences that it takes are
never below zero. -/
theorem exact_of_action_returned (ran : edit.action s = .returned () after) :
    edit.stop s ≤ s.length ∧ edit.start s + (edit.stop s - edit.start s) = edit.stop s ∧
      ∀ position, edit.stop s ≤ position →
        shifted (edit.start s) (edit.stop s) edit.text.length position +
          (edit.stop s - edit.start s) = position + edit.text.length := by
  obtain ⟨spans, inside⟩ := (action_returned_iff.mp ran).1.spans
  exact ⟨inside, Nat.add_sub_cancel' spans, fun _ after => shifted_add spans after⟩

end Edit

namespace ScanState

/-- All positions that are tracked in the word: the cursor, the ends of the window and of the slice,
and the marks. -/
def positions (s : ScanState) : List Nat :=
  s.cursor :: s.windowStart :: s.windowEnd :: s.sliceStart :: s.sliceEnd :: s.marks

/-- When the letters from `start` up to `stop` have given way to others, a position has gone from
`old` to `new` with the text. -/
structure Carried (s after : ScanState) (start stop old new : Nat) : Prop where
  inWord : new ≤ after.length
  behind : stop ≤ old → after.letters.drop new = s.letters.drop old
  before : old < stop → old ≤ start → new = old ∧ after.letters.take new = s.letters.take old
  within : start < old → old < stop → new = start

/-- The letters from `start` up to `stop` have given way to `text`, and `move` has carried all
positions along, none past another. -/
structure Edited (s after : ScanState) (start stop : Nat) (text : List Char) (move : Nat → Nat) :
    Prop where
  letters : after.letters = s.letters.take start ++ text ++ s.letters.drop stop
  positions : after.positions = s.positions.map move
  carried : ∀ position ∈ s.positions, s.Carried after start stop position (move position)
  ordered : ∀ first second : Nat, first ≤ second → move first ≤ move second
  mode : after.mode = s.mode

variable {s : ScanState} {start stop : Nat}

theorem carried_shifted (text : List Char) (spans : start ≤ stop) (inside : stop ≤ s.length)
    {position : Nat} (inWord : position ≤ s.length) :
    s.Carried (s.replaced start stop text) start stop position
      (shifted start stop text.length position) where
  inWord := by
    rw [length_replaced text spans inside]
    exact shifted_mono spans inWord
  behind after := drop_replaced text spans inside after
  before notAfter before := by
    rw [shifted_of_le_start before notAfter]
    exact ⟨rfl, take_replaced text before (Nat.le_trans spans inside)⟩
  within beyond notAfter := shifted_of_inside beyond notAfter

theorem edited_replaced (text : List Char) (spans : start ≤ stop) (inside : stop ≤ s.length)
    (inWord : ∀ position ∈ s.positions, position ≤ s.length) :
    s.Edited (s.replaced start stop text) start stop text (shifted start stop text.length) where
  letters := rfl
  positions := rfl
  carried position member := carried_shifted text spans inside (inWord position member)
  ordered _ _ below := shifted_mono spans below
  mode := rfl

end ScanState

/-- An edit that fits puts its text in place of the letters and carries every position along; an
edit that does not fit is refused and changes nothing. -/
theorem Edit.action_carries_positions (edit : Edit) {s : ScanState}
    (inWord : ∀ position ∈ s.positions, position ≤ s.length) :
    (edit.Fits s → ∃ after move, edit.action s = .returned () after ∧
      s.Edited after (edit.start s) (edit.stop s) edit.text move) ∧
    (¬ edit.Fits s →
      edit.action s = .faulted (s.sliceViolation (edit.start s) (edit.stop s)) s) := by
  constructor
  · intro fits
    obtain ⟨spans, inside⟩ := fits.spans
    exact ⟨_, _, Edit.action_of_fits fits,
      ScanState.edited_replaced edit.text spans inside inWord⟩
  · exact Edit.action_of_not_fits

/-- An ending becomes `er` with marks before it, at its start, in it and at its end; an insertion
beyond the word is refused. -/
theorem Edit.action_carries_positions_lyserte :
    (∃ move, ScanState.Edited
      ⟨['l', 'y', 's', 'e', 'r', 't', 'e'], 5, 1, 7, 3, 7, [2, 3, 4, 7], .backward⟩
      ⟨['l', 'y', 's', 'e', 'r'], 3, 1, 5, 3, 5, [2, 3, 3, 5], .backward⟩
      3 7 ['e', 'r'] move) ∧
    Edit.action (.insert 8 ['t'])
        ⟨['l', 'y', 's', 'e', 'r', 't', 'e'], 5, 1, 7, 3, 7, [2, 3, 4, 7], .backward⟩ =
      .faulted (.invalidSlice 8 8 7 7)
        ⟨['l', 'y', 's', 'e', 'r', 't', 'e'], 5, 1, 7, 3, 7, [2, 3, 4, 7], .backward⟩ := by
  have inWord : ∀ position ∈ ScanState.positions
      ⟨['l', 'y', 's', 'e', 'r', 't', 'e'], 5, 1, 7, 3, 7, [2, 3, 4, 7], .backward⟩,
      position ≤ 7 := by decide
  have inOrder : ScanState.SliceInOrder
      ⟨['l', 'y', 's', 'e', 'r', 't', 'e'], 5, 1, 7, 3, 7, [2, 3, 4, 7], .backward⟩ := by decide
  have beyond : ¬ 8 ≤ 7 := by decide
  obtain ⟨after, move, ran, edited⟩ :=
    (Edit.action_carries_positions (.replaceSlice ['e', 'r']) inWord).1 inOrder
  obtain ⟨-, rfl⟩ := Outcome.returned.inj ran
  exact ⟨⟨move, edited⟩, (Edit.action_carries_positions (.insert 8 ['t']) inWord).2 beyond⟩

end Stemming
