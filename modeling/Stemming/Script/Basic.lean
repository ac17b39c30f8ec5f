import Stemming.Norwegian.Stages

set_option autoImplicit false

namespace Stemming.Script

/-- An entry of a script's own rule table, with the number of its side condition. -/
structure Row where
  pattern : List Char
  link : Option Nat
  result : Int
  condition : Option Nat
  deriving DecidableEq, Repr

/-- The rule tables that a script can search. -/
inductive Table where
  | own (rows : List Row)
  | mainSuffixes
  | consonantPairs
  | otherSuffixes
  deriving DecidableEq, Repr

/-- One engine operation. Slots keep saved cursors and window bounds for later operations. -/
inductive Instr where
  | setCursor (position : Nat)
  | peek (direction : Direction)
  | hop (direction : Direction) (count : Nat)
  | step (direction : Direction)
  | literal (direction : Direction) (text : List Char)
  | saveCursor (slot : Nat)
  | restoreSaved (slot : Nat)
  | restoreCursor (saved : SavedCursor)
  | probe (body : List Instr)
  | enterBackward
  | leaveBackward
  | startSlice
  | endSlice
  | readMark (mark : Mark)
  | setMark (mark : Mark) (value : Nat)
  | checkInvariants
  | narrow (mark : Mark) (direction : Direction) (slot : Nat)
  | widen (slot : Nat)
  | within (mark : Mark) (direction : Direction) (body : List Instr)
  | test (set : LetterSet) (direction : Direction) (membership : Membership)
  | seek (set : LetterSet) (direction : Direction) (membership : Membership)
  | seekPast (set : LetterSet) (direction : Direction) (membership : Membership)
  | find (table : Table) (direction : Direction)
  | deleteSlice
  | replaceSlice (text : List Char)
  | insert (position : Nat) (text : List Char)
  | sliceText
  | stage (stage : Norwegian.Stage)
  | stemNorwegian

inductive Found where
  | number (value : Int)
  | effect (effect : Norwegian.Effect)
  | bare
  deriving DecidableEq, Repr

inductive Reply where
  | done
  | flag (value : Bool)
  | letter (letter : Option Char)
  | saved (cursor : SavedCursor)
  | position (value : Nat)
  | text (letters : List Char)
  | found (found : Option Found)
  /-- The slot that was named is empty, so nothing was done. -/
  | emptySlot
  deriving DecidableEq, Repr

/-- Whether a list of operations goes on after this reply. -/
def Reply.goesOn : Reply → Bool
  | .flag value => value
  | .letter answer => answer.isSome
  | .found answer => answer.isSome
  | .emptySlot => false
  | .done | .saved _ | .position _ | .text _ => true

inductive Segment where
  | operation (index : Nat)
  | condition (index : Nat)
  deriving DecidableEq, Repr

/-- The place of an operation in a script, from the outside in. -/
abbrev Path : Type :=
  List Segment

structure Step where
  path : Path
  reply : Except Violation Reply
  state : ScanState

/-- What a run of a script keeps beside the state. -/
structure Session where
  cursors : List (Nat × SavedCursor)
  bounds : List (Nat × Bound)
  steps : List Step

def Session.start : Session where
  cursors := []
  bounds := []
  steps := []

end Stemming.Script

namespace Stemming

/-- A list of operations with what they refer to. -/
structure Script where
  markCount : Nat
  /-- The side conditions that table rows name by number. -/
  conditions : List (List Script.Instr)
  operations : List Script.Instr

end Stemming
