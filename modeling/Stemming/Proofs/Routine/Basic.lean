import Stemming.LetterSet
import Stemming.Proofs.RuleTable.Links
import Stemming.Scan.Beside
import Stemming.Scan.Edit
import Stemming.Scan.Region

set_option autoImplicit false

namespace Stemming

/-- An operation that edits nothing, on states with `markCount` marks, with the kind of its
reply. -/
inductive Operation (markCount : Nat) : Type → Type 1 where
  | look : Operation markCount ScanState
  | setCursor (position : Nat) : Operation markCount Unit
  | hop (direction : Direction) (count : Nat) : Operation markCount Bool
  | step (direction : Direction) : Operation markCount Bool
  | literal (direction : Direction) (text : List Char) : Operation markCount Bool
  | saveCursor : Operation markCount SavedCursor
  | restoreCursor (saved : SavedCursor) : Operation markCount Unit
  | enterBackward : Operation markCount Unit
  | leaveBackward : Operation markCount Unit
  | startSlice : Operation markCount Unit
  | endSlice : Operation markCount Unit
  | setMark (mark : Fin markCount) (value : Nat) : Operation markCount Unit
  | test (set : LetterSet) (direction : Direction) (membership : Membership) :
      Operation markCount Bool
  | seek (set : LetterSet) (direction : Direction) (membership : Membership) :
      Operation markCount Bool
  | seekPast (set : LetterSet) (direction : Direction) (membership : Membership) :
      Operation markCount Bool
  | narrow (mark : Fin markCount) (direction : Direction) : Operation markCount (Option Bound)
  | find {ρ : Type} (table : RuleTable Scan ρ) (direction : Direction)
      (plain : ∀ entry ∈ table, entry.condition = none) (linked : table.Linked) :
      Operation markCount (Option ρ)

def Operation.action {markCount : Nat} {β : Type} : Operation markCount β → Scan β
  | .look => Scan.state
  | .setCursor position => Scan.setCursor position
  | .hop direction count => Scan.hop direction count
  | .step direction => Scan.step direction
  | .literal direction text => Scan.literal direction text
  | .saveCursor => Scan.saveCursor
  | .restoreCursor saved => Scan.restoreCursor saved
  | .enterBackward => Scan.enterBackward
  | .leaveBackward => Scan.leaveBackward
  | .startSlice => Scan.startSlice
  | .endSlice => Scan.endSlice
  | .setMark mark value => Scan.setMark ⟨mark⟩ value
  | .test set direction membership => Scan.test set direction membership
  | .seek set direction membership => Scan.seek set direction membership
  | .seekPast set direction membership => Scan.seekPast set direction membership
  | .narrow mark direction => Scan.narrow ⟨mark⟩ direction
  | .find table direction _ _ => table.find direction

/-- An operation that edits. -/
inductive Edit where
  | deleteSlice
  | replaceSlice (text : List Char)
  | insert (position : Nat) (text : List Char)

def Edit.action : Edit → Scan Unit
  | .deleteSlice => Scan.deleteSlice
  | .replaceSlice text => Scan.replaceSlice text
  | .insert position text => Scan.insert position text

/-- A run of operations that gives an `α`; one without edits if `edits` is false. What a narrowed
window runs is always without edits. -/
inductive Routine (markCount : Nat) : (edits : Bool) → Type → Type 1 where
  | done {edits : Bool} {α : Type} (value : α) : Routine markCount edits α
  | operate {edits : Bool} {α β : Type} (operation : Operation markCount β)
      (next : Except Violation β → Routine markCount edits α) : Routine markCount edits α
  | edit {α : Type} (change : Edit) (next : Except Violation Unit → Routine markCount true α) :
      Routine markCount true α
  | probe {edits : Bool} {α : Type} (body : Routine markCount edits (Except Violation Bool))
      (next : Except Violation Bool → Routine markCount edits α) : Routine markCount edits α
  | within {edits : Bool} {α β : Type} (mark : Fin markCount) (direction : Direction)
      (body : Routine markCount false (Option β))
      (next : Except Violation (Option β) → Routine markCount edits α) :
      Routine markCount edits α

/-- What is noted after an operation. -/
structure Note where
  state : ScanState
  /-- The violation that was reported where a narrowed window was widened. -/
  misfit : Option Violation

namespace Routine

variable {markCount : Nat}

def note (misfit : Option Violation) : Beside (List Note) Unit := do
  let state ← Scan.state
  Beside.updateKept (⟨state, misfit⟩ :: ·)

/-- Runs a routine, with a note after each operation, the last one first. -/
def run {edits : Bool} {α : Type} : Routine markCount edits α → Beside (List Note) α
  | .done value => return value
  | .operate operation next => do
    let reply ← Beside.attempt operation.action
    note none
    (next reply).run
  | .edit change next => do
    let reply ← Beside.attempt change.action
    note none
    (next reply).run
  | .probe body next => do
    let reply ← Beside.attempt (Scan.probe do Beside.release (← body.run))
    note none
    (next reply).run
  | .within mark direction body next => do
    let reply ← Beside.attempt (Scan.within ⟨mark⟩ direction body.run)
    match reply with
    | .ok _ => note none
    | .error violation => note (some violation)
    (next reply).run

end Routine

end Stemming
