import Stemming.RuleTable.Search

set_option autoImplicit false

namespace Stemming

/-- The number of links that a walk follows at most. In a table that passes its check a walk follows
fewer links than the table has entries; a walk that follows more goes round in a circle. -/
def chainLimit : Nat := 65536

namespace Scan

/-- Covers with the slice the letters between two positions, of which the scan in `direction` met
`near` first. -/
def coverMatch (direction : Direction) (near far : Nat) : Scan Unit :=
  update fun s =>
    match direction with
    | .forward => { s with sliceStart := near, sliceEnd := far }
    | .backward => { s with sliceStart := far, sliceEnd := near }

def placeCursor (position : Nat) : Scan Unit :=
  update fun s => { s with cursor := position }

def matchEnd (direction : Direction) (near count : Nat) : Scan Nat :=
  match direction with
  | .forward => return near + count
  | .backward => if count ≤ near then return near - count else trap .outsideWord

def search {M : Type → Type} {ρ : Type} (table : RuleTable M ρ) (direction : Direction) :
    Scan Candidate := fun s =>
  match table.search s direction with
  | .ok candidate => .returned candidate s
  | .error why => .trapped why

end Scan

/-- Tries an entry that matches the letters from `near` on: the cursor goes past the match, the
condition, if there is one, runs, and the cursor is put back past the match. If the entry is
accepted, the slice covers the match. -/
def Entry.take {M : Type → Type} [Monad M] [MonadLiftT Scan M] {ρ : Type} (entry : Entry M ρ)
    (direction : Direction) (near : Nat) : M Bool := do
  let far ← liftM (Scan.matchEnd direction near entry.length)
  Scan.placeCursor far
  let accepted ← match entry.condition with
    | none => pure true
    | some condition =>
      let holds ← condition
      Scan.placeCursor far
      pure holds
  if accepted then Scan.coverMatch direction near far
  return accepted

namespace RuleTable

variable {M : Type → Type} [Monad M] [MonadLiftT Scan M] {ρ : Type}

/-- Follows the links from entry `index` to the first entry with no more than `shared` letters that
is accepted; if there is none, puts the cursor back to `near`. -/
def walk (table : RuleTable M ρ) (direction : Direction) (near shared : Nat) :
    (fuel : Nat) → (index : Nat) → M (Option ρ)
  | 0, _ => liftM (Scan.trap .endlessChain : Scan (Option ρ))
  | fuel + 1, index =>
    match table[index]? with
    | none => liftM (Scan.trap .noSuchEntry : Scan (Option ρ))
    | some entry => do
      let taken ← if entry.length ≤ shared then entry.take direction near else pure false
      if taken then
        return some entry.result
      else
        match entry.link with
        | some next => table.walk direction near shared fuel next
        | none =>
          Scan.placeCursor near
          return none

/-- Finds the longest entry that stands beside the cursor in `direction`, inside the window, and
whose condition holds. The cursor goes past it and the slice covers it. If there is none, the cursor
stays. -/
def find (table : RuleTable M ρ) (direction : Direction) : M (Option ρ) := do
  if table.isEmpty then
    return none
  else
    let near := (← Scan.state).cursor
    let candidate ← Scan.search table direction
    table.walk direction near candidate.shared (table.length + chainLimit) candidate.index

end RuleTable

end Stemming
