import Stemming.Scan.Outcome

set_option autoImplicit false

namespace Stemming

/-- An action on the scan state that gives an `α`, with a `κ` kept beside the state. -/
def Beside (κ α : Type) : Type :=
  κ → ScanState → Outcome α × κ

namespace Beside

variable {κ α β : Type}

protected def pure (value : α) : Beside κ α := fun kept s =>
  (.returned value s, kept)

protected def bind (first : Beside κ α) (next : α → Beside κ β) : Beside κ β := fun kept s =>
  match first kept s with
  | (.returned value after, kept) => next value kept after
  | (.faulted violation after, kept) => (.faulted violation after, kept)
  | (.trapped trap, kept) => (.trapped trap, kept)

instance : Monad (Beside κ) where
  pure := Beside.pure
  bind := Beside.bind

instance : MonadLift Scan (Beside κ) where
  monadLift action := fun kept s => (action s, kept)

def kept : Beside κ κ := fun kept s =>
  (.returned kept s, kept)

def updateKept (change : κ → κ) : Beside κ Unit := fun kept s =>
  (.returned () s, change kept)

/-- Runs an action and gives its violation, if there is one, as a value. -/
def attempt (action : Beside κ α) : Beside κ (Except Violation α) := fun kept s =>
  match action kept s with
  | (.returned value after, kept) => (.returned (.ok value) after, kept)
  | (.faulted violation after, kept) => (.returned (.error violation) after, kept)
  | (.trapped trap, kept) => (.trapped trap, kept)

/-- Gives the value, or reports the violation, that `attempt` has kept. -/
def release (result : Except Violation α) : Beside κ α := fun kept s =>
  match result with
  | .ok value => (.returned value s, kept)
  | .error violation => (.faulted violation s, kept)

/-- Runs an action and gives `substitute` in place of a violation; the state stays as the action
left it. -/
def recover (action : Beside κ α) (substitute : α) : Beside κ α := do
  match ← attempt action with
  | .ok value => return value
  | .error _ => return substitute

section Outcomes

variable {first : Beside κ α} {before later : κ} {s after : ScanState}

theorem bind_of_returned {value : α} (ran : first before s = (.returned value after, later))
    (next : α → Beside κ β) : (first >>= next) before s = next value later after := by
  show Beside.bind first next before s = _
  simp only [Beside.bind, ran]

theorem bind_of_faulted {violation : Violation}
    (ran : first before s = (.faulted violation after, later)) (next : α → Beside κ β) :
    (first >>= next) before s = (.faulted violation after, later) := by
  show Beside.bind first next before s = _
  simp only [Beside.bind, ran]

theorem bind_of_trapped {trap : Trap} (ran : first before s = (.trapped trap, later))
    (next : α → Beside κ β) : (first >>= next) before s = (.trapped trap, later) := by
  show Beside.bind first next before s = _
  simp only [Beside.bind, ran]

theorem attempt_of_returned {value : α} (ran : first before s = (.returned value after, later)) :
    attempt first before s = (.returned (.ok value) after, later) := by
  simp only [attempt, ran]

theorem attempt_of_faulted {violation : Violation}
    (ran : first before s = (.faulted violation after, later)) :
    attempt first before s = (.returned (.error violation) after, later) := by
  simp only [attempt, ran]

end Outcomes

end Beside

end Stemming
