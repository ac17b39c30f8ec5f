import Stemming.Scan.Beside
import Stemming.Script.Basic

set_option autoImplicit false

namespace Stemming.Script

/-- An action of a script: on the scan state, with the session beside it. -/
abbrev Act (α : Type) : Type :=
  Beside Session α

def record (path : Path) (reply : Except Violation Reply) : Act Unit := do
  let state ← Scan.state
  Beside.updateKept fun session => { session with steps := ⟨path, reply, state⟩ :: session.steps }

def keepCursor (slot : Nat) (cursor : SavedCursor) : Act Unit :=
  Beside.updateKept fun session => { session with cursors := (slot, cursor) :: session.cursors }

def keepBound (slot : Nat) (bound : Bound) : Act Unit :=
  Beside.updateKept fun session => { session with bounds := (slot, bound) :: session.bounds }

def takeBound? (slot : Nat) : Act (Option Bound) := do
  let bounds := (← Beside.kept).bounds
  Beside.updateKept fun session =>
    { session with bounds := session.bounds.filter (·.1 != slot) }
  return bounds.lookup slot

/-- The entry of a row, whose side condition runs as `condition` says. -/
def Row.toEntry (condition : Nat → Act Bool) (row : Row) : Entry Act Int where
  pattern := row.pattern
  link := row.link
  result := row.result
  condition := row.condition.map condition

def findIn (condition : Nat → Act Bool) (direction : Direction) : Table → Act (Option Found)
  | .own rows => do
    let found ← RuleTable.find (rows.map (Row.toEntry condition)) direction
    return found.map .number
  | .mainSuffixes => do
    let found ← (Norwegian.mainSuffixes.find direction : Scan (Option Norwegian.Effect))
    return found.map .effect
  | .consonantPairs => do
    let found ← (Norwegian.consonantPairs.find direction : Scan (Option Unit))
    return found.map fun _ => .bare
  | .otherSuffixes => do
    let found ← (Norwegian.otherSuffixes.find direction : Scan (Option Unit))
    return found.map fun _ => .bare

/-- Carries out one operation. `body` runs the list of operations that it holds, and `condition` the
side condition of a number. -/
def reply (body : List Instr → Act Bool) (condition : Nat → Act Bool) : Instr → Act Reply
  | .setCursor position => do
    Scan.setCursor position
    return .done
  | .peek direction => return .letter (← Scan.peek direction)
  | .hop direction count => return .flag (← Scan.hop direction count)
  | .step direction => return .flag (← Scan.step direction)
  | .literal direction text => return .flag (← Scan.literal direction text)
  | .saveCursor slot => do
    let cursor ← Scan.saveCursor
    keepCursor slot cursor
    return .saved cursor
  | .restoreSaved slot => do
    match (← Beside.kept).cursors.lookup slot with
    | none => return .emptySlot
    | some cursor =>
      Scan.restoreCursor cursor
      return .done
  | .restoreCursor saved => do
    Scan.restoreCursor saved
    return .done
  | .probe operations => return .flag (← Scan.probe (body operations))
  | .enterBackward => do
    Scan.enterBackward
    return .done
  | .leaveBackward => do
    Scan.leaveBackward
    return .done
  | .startSlice => do
    Scan.startSlice
    return .done
  | .endSlice => do
    Scan.endSlice
    return .done
  | .readMark mark => return .position (← Scan.readMark mark)
  | .setMark mark value => do
    Scan.setMark mark value
    return .done
  | .checkInvariants => do
    Scan.checkInvariants
    return .done
  | .narrow mark direction slot => do
    match ← (liftM (Scan.narrow mark direction) : Act (Option Bound)) with
    | none => return .flag false
    | some bound =>
      keepBound slot bound
      return .flag true
  | .widen slot => do
    match ← takeBound? slot with
    | none => return .emptySlot
    | some bound =>
      Scan.widen bound
      return .done
  | .within mark direction operations => do
    let found ← Scan.within mark direction do
      return if ← Beside.recover (body operations) false then some () else none
    return .flag found.isSome
  | .test set direction membership => return .flag (← Scan.test set direction membership)
  | .seek set direction membership => return .flag (← Scan.seek set direction membership)
  | .seekPast set direction membership => return .flag (← Scan.seekPast set direction membership)
  | .find table direction => return .found (← findIn condition direction table)
  | .deleteSlice => do
    Scan.deleteSlice
    return .done
  | .replaceSlice text => do
    Scan.replaceSlice text
    return .done
  | .insert position text => do
    Scan.insert position text
    return .done
  | .sliceText => return .text (← Scan.sliceText)
  | .stage stage => return .flag (← stage.apply)
  | .stemNorwegian => do
    Norwegian.program.run
    return .done

/-- Runs operations from number `index` on, each by `perform`, while their replies go on. -/
def runList (perform : Path → Instr → Act (Except Violation Reply)) (path : Path) :
    (index : Nat) → List Instr → Act Bool
  | _, [] => return true
  | index, operation :: rest => do
    let answer ← perform (path ++ [.operation index]) operation
    if (← Beside.release answer : Reply).goesOn then runList perform path (index + 1) rest
    else return false

/-- Carries out one operation and keeps it on record, with at most `depth` operations inside one
another. -/
def perform (conditions : List (List Instr)) :
    (depth : Nat) → Path → Instr → Act (Except Violation Reply)
  | 0, _, _ => liftM (Scan.trap .tooDeep : Scan (Except Violation Reply))
  | depth + 1, path, operation => do
    let body (operations : List Instr) : Act Bool :=
      runList (perform conditions depth) path 0 operations
    let condition (index : Nat) : Act Bool :=
      Beside.recover
        (runList (perform conditions depth) (path ++ [.condition index]) 0
          (conditions.getD index []))
        false
    let answer ← Beside.attempt (reply body condition operation)
    record path answer
    return answer

/-- How deeply operations may stand inside one another. -/
def depthLimit : Nat := 4096

end Stemming.Script

namespace Stemming

/-- What a run of a script leaves: the operations that came to their end, and the letters at the end
or why there are none. -/
structure Recording where
  steps : List Script.Step
  result : Except Halt (List Char)

namespace Script

/-- Carries out the operations of a script in order, from number `index` on; `after` tells what to
do with each answer. -/
def runFrom (script : Script) (after : Except Violation Reply → Act Unit) :
    (index : Nat) → List Instr → Act Unit
  | _, [] => return ()
  | index, operation :: rest => do
    after (← perform script.conditions depthLimit [.operation index] operation)
    runFrom script after (index + 1) rest

/-- The script as the rules of a language: its operations in order, up to the first violation. -/
def program (script : Script) : RuleProgram Act where
  markCount := script.markCount
  run := runFrom script (fun answer => do let _ ← Beside.release answer) 0 script.operations

def recordingOf (script : Script) (action : Act (List Char)) (word : List Char) : Recording :=
  let (outcome, session) := action Session.start (ScanState.ofWord word script.markCount)
  ⟨session.steps.reverse, outcome.result⟩

/-- Carries out every operation on a word, also after a violation, and gives the letters that they
leave. -/
def play (script : Script) (word : List Char) : Recording :=
  let action : Act (List Char) := do
    runFrom script (fun _ => return ()) 0 script.operations
    return (← Scan.state).letters
  script.recordingOf action word

/-- Runs a script on a word as the rules of a language are run. -/
def execute (script : Script) (word : List Char) : Recording :=
  script.recordingOf script.program.stem word

end Script

end Stemming
