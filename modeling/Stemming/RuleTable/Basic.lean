import Stemming.Scan.Outcome

set_option autoImplicit false

namespace Stemming

/-- One pattern of a rule table, with what a match of it gives. -/
structure Entry (M : Type → Type) (ρ : Type) where
  pattern : List Char
  /-- The entry to try when this one does not match or is not accepted. -/
  link : Option Nat
  result : ρ
  /-- What has to hold besides, with the cursor past the matched letters. -/
  condition : Option (M Bool) := none

/-- The entries of a table, sorted by the patterns as its scan reads them. Each entry links to the
longest entry that is an affix of its pattern, so that a search finds one entry and goes from there
to all others that match. -/
abbrev RuleTable (M : Type → Type) (ρ : Type) : Type :=
  List (Entry M ρ)

def Entry.plain {M : Type → Type} {ρ : Type} (pattern : String) (link : Option Nat)
    (result : ρ) : Entry M ρ where
  pattern := pattern.toList
  link := link
  result := result

abbrev Entry.length {M : Type → Type} {ρ : Type} (entry : Entry M ρ) : Nat :=
  entry.pattern.length

namespace Direction

/-- Whether one pattern stands before another in a table for scans in this direction: by code
points, letter by letter as the scan reads them. -/
def Precedes (direction : Direction) (lower upper : List Char) : Prop :=
  direction.reading lower < direction.reading upper

instance (direction : Direction) (lower upper : List Char) :
    Decidable (direction.Precedes lower upper) :=
  inferInstanceAs (Decidable (_ < _))

/-- Whether every scan in this direction that meets `long` has met `short` first. -/
def isAffix (direction : Direction) (short long : List Char) : Bool :=
  (direction.reading short).isPrefixOf (direction.reading long)

end Direction

namespace RuleTable

variable {M : Type → Type} {ρ : Type}

/-- The number of the first entry that is not above the one before it. -/
def firstUnordered? (table : RuleTable M ρ) (direction : Direction) : Option Nat :=
  ((table.zip table.tail).findIdx? fun (lower, upper) =>
    ¬ direction.Precedes lower.pattern upper.pattern).map (· + 1)

/-- The later of two numbered lengths that is not shorter than the other. -/
def longer (best : Option (Nat × Nat)) (candidate : Nat × Nat) : Option (Nat × Nat) :=
  match best with
  | none => some candidate
  | some current => if current.1 ≤ candidate.1 then some candidate else some current

/-- The number of the longest entry that is an affix of a pattern and shorter than it. -/
def longestAffix? (table : RuleTable M ρ) (direction : Direction) (pattern : List Char) :
    Option Nat :=
  let affixes := table.zipIdx.filter fun (entry, _) =>
    entry.length < pattern.length && direction.isAffix entry.pattern pattern
  (affixes.foldl (fun best (entry, index) => longer best (entry.length, index)) none).map (·.2)

def firstWrongLink? (table : RuleTable M ρ) (direction : Direction) : Option Nat :=
  table.findIdx? fun entry => entry.link != table.longestAffix? direction entry.pattern

/-- What keeps a table from being searched in `direction`: its order before its links, and the first
entry that is wrong. -/
def violation? (table : RuleTable M ρ) (direction : Direction) : Option Violation :=
  match table.firstUnordered? direction with
  | some index => some (.malformedTable index .unordered)
  | none => (table.firstWrongLink? direction).map (.malformedTable · .wrongLink)

end RuleTable

end Stemming
