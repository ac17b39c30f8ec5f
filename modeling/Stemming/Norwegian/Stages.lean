import Stemming.Norwegian.Endings
import Stemming.Program
import Stemming.RuleTable.Find
import Stemming.Scan.Edit
import Stemming.Scan.Region

/-!
The Norwegian rules, in four stages. The first finds the region in which endings may be taken off:
just past the first non-vowel that follows a vowel, but not before the third letter. The others scan
backward from the end of the word: inflectional endings, the `t` of a final `dt` or `vt`, and
derivational endings. A stage that does not apply leaves the word as it is.
-/

set_option autoImplicit false

namespace Stemming.Norwegian

/-- The start of the region in which endings may be taken off. -/
def regionStart : Mark := ⟨0⟩

/-- The lowest start that the region may have: three letters into the word. -/
def earliestStart : Mark := ⟨1⟩

inductive Stage where
  | markRegions
  | mainSuffix
  | consonantPair
  | otherSuffix
  deriving DecidableEq, Repr

/-- Marks the third letter, if the window has one, without moving the cursor. -/
def markEarliestStart : Scan Bool :=
  Scan.probe do
    if ← Scan.hop .forward 3 then
      Scan.setMark earliestStart (← Scan.state).cursor
      return true
    else
      return false

/-- Marks the region. Without a vowel and a later non-vowel, or without a third letter, the region
is empty. -/
def markRegions : Scan Bool := do
  Scan.setMark regionStart (← Scan.state).windowEnd
  if !(← markEarliestStart) then
    return false
  else if !(← Scan.seek vowels .forward .inside) then
    return false
  else if !(← Scan.seekPast vowels .forward .outside) then
    return false
  else
    let position := (← Scan.state).cursor
    Scan.setMark regionStart (max position (← Scan.readMark earliestStart))
    return true

/-- Whether a final s that ends here is an ending: after an s-ending consonant, or after a k that
follows no vowel. The letters are read from the whole window, also before the region. -/
def afterSEnding : Scan Bool := do
  if ← Scan.test sEndings .backward .inside then
    return true
  else if ← Scan.literal .backward ['k'] then
    Scan.test vowels .backward .outside
  else
    return false

/-- Carries out the effect of an inflectional ending that the slice covers. -/
def applyEffect : Effect → Scan Bool
  | .delete => do
    Scan.deleteSlice
    return true
  | .deleteAfterSEnding => do
    if ← afterSEnding then
      Scan.deleteSlice
      return true
    else
      return false
  | .replaceWithEr => do
    Scan.replaceSlice ['e', 'r']
    return true

/-- The longest ending of a table that lies in the region. -/
def findInRegion {ρ : Type} (table : RuleTable Scan ρ) : Scan (Option ρ) :=
  Scan.within regionStart .backward (table.find .backward)

/-- Takes off, or replaces, the longest inflectional ending. -/
def mainSuffix : Scan Bool := do
  match ← findInRegion mainSuffixes with
  | none => return false
  | some effect => applyEffect effect

/-- Whether the word ends in a consonant pair. The slice ends where the pair does, and the cursor
stays there. -/
def endsInPair : Scan Bool :=
  Scan.probe do return (← findInRegion consonantPairs).isSome

/-- Drops the last letter of a consonant pair. -/
def consonantPair : Scan Bool := do
  if !(← endsInPair) then
    return false
  else if !(← Scan.step .backward) then
    return false
  else
    Scan.startSlice
    Scan.deleteSlice
    return true

def otherSuffix : Scan Bool := do
  match ← findInRegion otherSuffixes with
  | none => return false
  | some _ =>
    Scan.deleteSlice
    return true

namespace Stage

def all : List Stage :=
  [.markRegions, .mainSuffix, .consonantPair, .otherSuffix]

def name : Stage → String
  | .markRegions => "mark_regions"
  | .mainSuffix => "main_suffix"
  | .consonantPair => "consonant_pair"
  | .otherSuffix => "other_suffix"

def direction : Stage → Direction
  | .markRegions => .forward
  | .mainSuffix | .consonantPair | .otherSuffix => .backward

/-- Runs a stage once; false if it did not apply. -/
def apply : Stage → Scan Bool
  | .markRegions => Norwegian.markRegions
  | .mainSuffix => Norwegian.mainSuffix
  | .consonantPair => Norwegian.consonantPair
  | .otherSuffix => Norwegian.otherSuffix

/-- Runs a stage in its mode and leaves the cursor where it was. -/
def run (stage : Stage) : Scan Unit := do
  if stage.direction = .backward ∧ (← Scan.state).mode = .forward then
    Scan.enterBackward
  let _ ← Scan.probe stage.apply

end Stage

def program : RuleProgram Scan where
  markCount := 2
  run := do
    Stage.all.forM Stage.run
    Scan.leaveBackward

end Stemming.Norwegian
