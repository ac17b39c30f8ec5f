import Stemming.Scan.Cursor

set_option autoImplicit false

namespace Stemming

/-- An end of the window as it was before a narrowing. -/
structure Bound where
  direction : Direction
  position : Nat
  deriving DecidableEq, Repr

namespace ScanState

/-- The end of the window in `direction`. -/
def bound (s : ScanState) : Direction → Nat
  | .forward => s.windowEnd
  | .backward => s.windowStart

def withBound (s : ScanState) (direction : Direction) (position : Nat) : ScanState :=
  match direction with
  | .forward => { s with windowEnd := position }
  | .backward => { s with windowStart := position }

/-- Whether `position` lies between the cursor and the end of the window in `direction`. -/
def Reaches (s : ScanState) (direction : Direction) (position : Nat) : Prop :=
  match direction with
  | .forward => s.cursor ≤ position ∧ position ≤ s.windowEnd
  | .backward => s.windowStart ≤ position ∧ position ≤ s.cursor

instance (s : ScanState) (direction : Direction) (position : Nat) :
    Decidable (s.Reaches direction position) := by
  cases direction <;> exact inferInstanceAs (Decidable (_ ∧ _))

end ScanState

namespace Scan

/-- Moves the end of the window in `direction` to a mark, if the mark lies between the cursor and
that end, and gives the end as it was. -/
def narrow (mark : Mark) (direction : Direction) : Scan (Option Bound) := do
  let position ← readMark mark
  fun s =>
    if s.Reaches direction position then
      .returned (some ⟨direction, s.bound direction⟩) (s.withBound direction position)
    else
      .returned none s

/-- Puts an end of the window back. It is put back before the state is checked, and stays so even
if that leaves the window out of order and a violation is reported. -/
def widen (bound : Bound) : Scan Unit := do
  update fun s => s.withBound bound.direction bound.position
  checkInvariants

/-- Runs `body` with the window narrowed to a mark and widens it afterwards; gives nothing,
without running `body`, if the window cannot be narrowed to the mark. -/
def within {M : Type → Type} [Monad M] [MonadLiftT Scan M] {α : Type} (mark : Mark)
    (direction : Direction) (body : M (Option α)) : M (Option α) := do
  match ← (liftM (narrow mark direction) : M (Option Bound)) with
  | none => return none
  | some bound =>
    let found ← body
    widen bound
    return found

end Scan

end Stemming
