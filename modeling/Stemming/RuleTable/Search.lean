import Stemming.RuleTable.Basic

set_option autoImplicit false

namespace Stemming

namespace ScanState

/-- The letter `distance` letters further from the cursor in `direction`, and none exactly at the
end of the window. A cursor beyond that end reads on to the end of the word. -/
def letterAway (s : ScanState) (direction : Direction) (distance : Nat) :
    Except Trap (Option Char) :=
  let found (position : Nat) : Except Trap (Option Char) :=
    match s.letters[position]? with
    | some letter => .ok (some letter)
    | none => .error .outsideWord
  match direction with
  | .forward =>
    if s.cursor + distance = s.windowEnd then .ok none
    else found (s.cursor + distance)
  | .backward =>
    if s.cursor = s.windowStart + distance then .ok none
    else if s.cursor ≤ distance then .error .outsideWord
    else found (s.cursor - (distance + 1))

/-- How the text beside the cursor compares with a pattern. -/
structure Comparison where
  shared : Nat
  /-- Whether the text is below the pattern; if not, it is above it or begins with it. -/
  below : Bool
  deriving DecidableEq, Repr

def compareFrom (s : ScanState) (direction : Direction) :
    (shared : Nat) → (rest : List Char) → Except Trap Comparison
  | shared, [] => .ok ⟨shared, false⟩
  | shared, wanted :: rest => do
    match ← s.letterAway direction shared with
    | none => return ⟨shared, true⟩
    | some letter =>
      if letter = wanted then s.compareFrom direction (shared + 1) rest
      else return ⟨shared, letter < wanted⟩

/-- Compares the text with a pattern that is known to share `shared` letters with it. -/
def compare (s : ScanState) (direction : Direction) (shared : Nat) (pattern : List Char) :
    Except Trap Comparison :=
  s.compareFrom direction shared ((direction.reading pattern).drop shared)

end ScanState

/-- An entry and the number of letters that the text shares with it. -/
structure Candidate where
  index : Nat
  shared : Nat
  deriving DecidableEq, Repr

namespace RuleTable

variable {M : Type → Type} {ρ : Type}

/-- Halves the interval from `lower` to `upper` until it holds one entry. The text is not below
`lower`, or `lower` is the first entry and not yet compared; it is below `upper`, or `upper` is the
end of the table. The interval loses an entry at each step, so `fuel` for its length suffices. -/
def narrowTo (table : RuleTable M ρ) (s : ScanState) (direction : Direction) (fuel : Nat)
    (lower upper : Candidate) : Except Trap Candidate :=
  if upper.index ≤ lower.index + 1 then
    .ok lower
  else
    match fuel with
    | 0 => .error .endlessSearch
    | fuel + 1 =>
      let middle := lower.index + (upper.index - lower.index) / 2
      match table[middle]? with
      | none => .error .noSuchEntry
      | some entry => do
        let result ← s.compare direction (min lower.shared upper.shared) entry.pattern
        if result.below then table.narrowTo s direction fuel lower ⟨middle, result.shared⟩
        else table.narrowTo s direction fuel ⟨middle, result.shared⟩ upper

/-- The last entry that the text beside the cursor is not below, and the number of letters shared
with it; the first entry, with none shared, if the text is below all of them. -/
def search (table : RuleTable M ρ) (s : ScanState) (direction : Direction) :
    Except Trap Candidate := do
  let found ← table.narrowTo s direction table.length ⟨0, 0⟩ ⟨table.length, 0⟩
  if found.index = 0 then
    match table[0]? with
    | none => .error .noSuchEntry
    | some first =>
      let result ← s.compare direction 0 first.pattern
      return ⟨0, if result.below then 0 else result.shared⟩
  else
    return found

end RuleTable

end Stemming
