import Stemming.Scan.State

set_option autoImplicit false

namespace Stemming

/-- What is wrong with a rule table. -/
inductive TableFlaw where
  | unordered
  | wrongLink
  deriving DecidableEq, Repr

def TableFlaw.message : TableFlaw → String
  | .unordered => "entries are not strictly ordered"
  | .wrongLink => "back-link does not name the longest affix entry"

/-- A rule that an action would break, or found broken, with the offsets that break it. -/
inductive Violation where
  | cursorOutsideWindow (cursor windowStart windowEnd length : Nat)
  | invalidSlice (sliceStart sliceEnd windowEnd length : Nat)
  | markOutOfBounds (mark value length : Nat)
  | malformedTable (entry : Nat) (flaw : TableFlaw)
  deriving DecidableEq, Repr

def Violation.message : Violation → String
  | .cursorOutsideWindow cursor windowStart windowEnd length =>
    s!"cursor {cursor} outside window [{windowStart}, {windowEnd}] (buffer length {length})"
  | .invalidSlice sliceStart sliceEnd windowEnd length =>
    s!"invalid slice [{sliceStart}, {sliceEnd}) with limit {windowEnd} (buffer length {length})"
  | .markOutOfBounds mark value length =>
    s!"region mark {mark} set to {value}, beyond buffer length {length}"
  | .malformedTable entry flaw =>
    s!"malformed rule table at entry {entry}: " ++ flaw.message

/-- A use of an action that has no answer. -/
inductive Trap where
  | noSuchMark
  | noSuchEntry
  | outsideWord
  /-- A distance was asked for from a cursor beyond the end of its window. -/
  | invertedWindow
  /-- A chain of links did not come to its end. -/
  | endlessChain
  /-- A search did not come to its end. -/
  | endlessSearch
  | tooDeep
  deriving DecidableEq, Repr

/-- The end of an action that gives an `α`. -/
inductive Outcome (α : Type) where
  | returned (value : α) (state : ScanState)
  | faulted (violation : Violation) (state : ScanState)
  | trapped (trap : Trap)
  deriving DecidableEq, Repr

/-- Why a run gave no result. -/
inductive Halt where
  | violation (violation : Violation)
  | trap (trap : Trap)
  deriving DecidableEq, Repr

def Outcome.result {α : Type} : Outcome α → Except Halt α
  | .returned value _ => .ok value
  | .faulted violation _ => .error (.violation violation)
  | .trapped trap => .error (.trap trap)

/-- An action on the scan state. It gives an `α` and the state after it, or reports a violation and
leaves a state behind, or is trapped, and then there is no state. -/
def Scan (α : Type) : Type :=
  ScanState → Outcome α

namespace Scan

variable {α β : Type}

protected def pure (value : α) : Scan α := fun s =>
  .returned value s

protected def bind (first : Scan α) (next : α → Scan β) : Scan β := fun s =>
  match first s with
  | .returned value after => next value after
  | .faulted violation after => .faulted violation after
  | .trapped trap => .trapped trap

instance : Monad Scan where
  pure := Scan.pure
  bind := Scan.bind

def state : Scan ScanState := fun s =>
  .returned s s

def update (change : ScanState → ScanState) : Scan Unit := fun s =>
  .returned () (change s)

def trap (why : Trap) : Scan α := fun _ =>
  .trapped why

@[simp] theorem pure_apply (value : α) (s : ScanState) :
    (pure value : Scan α) s = .returned value s := rfl

theorem bind_apply (first : Scan α) (next : α → Scan β) (s : ScanState) :
    (first >>= next) s = match first s with
      | .returned value after => next value after
      | .faulted violation after => .faulted violation after
      | .trapped trap => .trapped trap := rfl

theorem map_apply (change : α → β) (action : Scan α) (s : ScanState) :
    (change <$> action) s = match action s with
      | .returned value after => .returned (change value) after
      | .faulted violation after => .faulted violation after
      | .trapped trap => .trapped trap := rfl

@[simp] theorem state_apply (s : ScanState) : state s = .returned s s := rfl

@[simp] theorem update_apply (change : ScanState → ScanState) (s : ScanState) :
    update change s = .returned () (change s) := rfl

@[simp] theorem trap_apply (why : Trap) (s : ScanState) :
    (trap why : Scan α) s = .trapped why := rfl

theorem ite_apply (condition : Prop) [Decidable condition] (first second : Scan α)
    (s : ScanState) :
    (if condition then first else second) s = if condition then first s else second s := by
  split <;> rfl

theorem bind_of_returned {first : Scan α} {s after : ScanState} {value : α}
    (returned : first s = .returned value after) (next : α → Scan β) :
    (first >>= next) s = next value after := by
  rw [bind_apply, returned]

instance : LawfulMonad Scan := LawfulMonad.mk' Scan
  (fun action => by
    funext s
    show (match action s with
      | .returned value after => .returned value after
      | .faulted violation after => .faulted violation after
      | .trapped trap => .trapped trap) = action s
    cases action s <;> rfl)
  (fun _ _ => rfl)
  (fun first second third => by
    funext s
    simp only [bind_apply]
    cases first s <;> rfl)

end Scan

end Stemming
