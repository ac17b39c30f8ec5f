import Stemming.Scan.Outcome

set_option autoImplicit false

namespace Stemming

/-- Where `position` goes when the letters from `start` up to `stop` give way to `inserted` many. -/
def shifted (start stop inserted position : Nat) : Nat :=
  if stop ≤ position then position - (stop - start) + inserted
  else if start < position then start
  else position

namespace ScanState

/-- The state after the letters from `start` up to `stop` have given way to `text`. -/
def replaced (s : ScanState) (start stop : Nat) (text : List Char) : ScanState :=
  let move := shifted start stop text.length
  { letters := s.letters.take start ++ text ++ s.letters.drop stop
    cursor := move s.cursor
    windowStart := move s.windowStart
    windowEnd := move s.windowEnd
    sliceStart := move s.sliceStart
    sliceEnd := move s.sliceEnd
    marks := s.marks.map move
    mode := s.mode }

/-- The slice has its ends in order and lies below the upper end of the window. -/
def SliceInOrder (s : ScanState) : Prop :=
  s.sliceStart ≤ s.sliceEnd ∧ s.sliceEnd ≤ s.windowEnd ∧ s.windowEnd ≤ s.length

instance (s : ScanState) : Decidable s.SliceInOrder :=
  inferInstanceAs (Decidable (_ ∧ _))

def sliceViolation (s : ScanState) (start stop : Nat) : Violation :=
  .invalidSlice start stop s.windowEnd s.length

end ScanState

namespace Scan

/-- Replaces the letters from `start` up to `stop` by `text`. -/
def replaceRange (start stop : Nat) (text : List Char) : Scan Unit := fun s =>
  if start ≤ stop ∧ stop ≤ s.length then .returned () (s.replaced start stop text)
  else .faulted (s.sliceViolation start stop) s

/-- Replaces the slice by `text`. If there was a letter in the slice, it covers `text` from then
on. -/
def replaceSlice (text : List Char) : Scan Unit := fun s =>
  if s.SliceInOrder then replaceRange s.sliceStart s.sliceEnd text s
  else .faulted (s.sliceViolation s.sliceStart s.sliceEnd) s

def deleteSlice : Scan Unit :=
  replaceSlice []

/-- Inserts `text` at a position of the word. A cursor there ends up after the new text. -/
def insert (position : Nat) (text : List Char) : Scan Unit :=
  replaceRange position position text

def sliceText : Scan (List Char) := fun s =>
  if s.SliceInOrder then
    .returned ((s.letters.take s.sliceEnd).drop s.sliceStart) s
  else
    .faulted (s.sliceViolation s.sliceStart s.sliceEnd) s

end Scan

end Stemming
