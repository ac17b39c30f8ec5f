import Stemming.Scan.Outcome

set_option autoImplicit false

namespace Stemming

/-- A cursor kept for later. In backward mode it is kept as its distance from the upper end of the
window, which edits behind the cursor leave as it is. -/
inductive SavedCursor where
  | fromStart (position : Nat)
  | fromEnd (distance : Nat)
  deriving DecidableEq, Repr

namespace ScanState

def cursorViolation (s : ScanState) (position : Nat) : Violation :=
  .cursorOutsideWindow position s.windowStart s.windowEnd s.length

def strayMark? (s : ScanState) : Option (Nat × Nat) :=
  s.marks.zipIdx.find? (fun (value, _) => s.length < value)

/-- What keeps the state from being well-formed: the window before the marks, a lower mark before a
higher one. -/
def violation? (s : ScanState) : Option Violation :=
  if s.WindowInOrder then
    s.strayMark?.map fun (value, mark) => .markOutOfBounds mark value s.length
  else
    some (s.cursorViolation s.cursor)

/-- The letters of the word from `start` up to `stop`; none if the word is not that long. -/
def segment? (s : ScanState) (start stop : Nat) : Option (List Char) :=
  if stop ≤ s.length then some ((s.letters.take stop).drop start) else none

/-- The `count` letters of the word beside the cursor in `direction`, in the order of the word. -/
def beside? (s : ScanState) (direction : Direction) (count : Nat) : Option (List Char) :=
  match direction with
  | .forward => s.segment? s.cursor (s.cursor + count)
  | .backward => s.segment? (s.cursor - count) s.cursor

end ScanState

namespace Scan

/-- Reports what keeps the state from being well-formed. -/
def checkInvariants : Scan Unit := fun s =>
  match s.violation? with
  | none => .returned () s
  | some violation => .faulted violation s

def setCursor (position : Nat) : Scan Unit := fun s =>
  if position < s.windowStart ∨ s.windowEnd < position then
    .faulted (s.cursorViolation position) s
  else
    .returned () { s with cursor := position }

def letterAt (position : Nat) : Scan Char := fun s =>
  match s.letters[position]? with
  | some letter => .returned letter s
  | none => .trapped .outsideWord

/-- The letter beside the cursor in `direction`, if it is in the window. -/
def peek (direction : Direction) : Scan (Option Char) := fun s =>
  match direction with
  | .forward =>
    if s.cursor < s.windowEnd then (some <$> letterAt s.cursor) s else .returned none s
  | .backward =>
    if s.windowStart < s.cursor then (some <$> letterAt (s.cursor - 1)) s
    else .returned none s

/-- Moves the cursor `count` letters in `direction`, if the window reaches that far. -/
def hop (direction : Direction) (count : Nat) : Scan Bool := fun s =>
  match s.room? direction with
  | none => .trapped .invertedWindow
  | some room =>
    if room < count then .returned false s else .returned true (s.advance direction count)

def step (direction : Direction) : Scan Bool :=
  hop direction 1

/-- Moves the cursor past `text`, if `text` stands beside it in the window. -/
def literal (direction : Direction) (text : List Char) : Scan Bool := fun s =>
  match s.room? direction with
  | none => .trapped .invertedWindow
  | some room =>
    if room < text.length then
      .returned false s
    else
      match s.beside? direction text.length with
      | none => .trapped .outsideWord
      | some found =>
        if found = text then .returned true (s.advance direction text.length)
        else .returned false s

/-- The cursor, relative to the end of the window that is stable in the current mode. -/
def saveCursor : Scan SavedCursor := fun s =>
  match s.mode with
  | .forward => .returned (.fromStart s.cursor) s
  | .backward =>
    match s.room? .forward with
    | none => .trapped .invertedWindow
    | some distance => .returned (.fromEnd distance) s

/-- Puts a saved cursor back, which must lie in the window as it is now. -/
def restoreCursor (saved : SavedCursor) : Scan Unit := fun s =>
  match saved with
  | .fromStart position => setCursor position s
  | .fromEnd distance =>
    if distance ≤ s.windowEnd then setCursor (s.windowEnd - distance) s
    else .faulted (s.cursorViolation 0) s

/-- Switches to backward mode: the window starts at the cursor, and the cursor goes to its end. -/
def enterBackward : Scan Unit :=
  update fun s => { s with windowStart := s.cursor, cursor := s.windowEnd, mode := .backward }

/-- Switches to forward mode: the cursor goes to the start of the window. -/
def leaveBackward : Scan Unit :=
  update fun s => { s with cursor := s.windowStart, mode := .forward }

def startSlice : Scan Unit :=
  update fun s => { s with sliceStart := s.cursor }

def endSlice : Scan Unit :=
  update fun s => { s with sliceEnd := s.cursor }

def readMark (mark : Mark) : Scan Nat := fun s =>
  match s.marks[mark.index]? with
  | some value => .returned value s
  | none => .trapped .noSuchMark

def setMark (mark : Mark) (value : Nat) : Scan Unit := fun s =>
  if s.length < value then
    .faulted (.markOutOfBounds mark.index value s.length) s
  else if mark.index < s.marks.length then
    .returned () { s with marks := s.marks.set mark.index value }
  else
    .trapped .noSuchMark

/-- Runs `body` and puts the cursor back where it was, whether `body` succeeded or not. Edits are
kept. A violation in `body` is reported at once. -/
def probe {M : Type → Type} [Monad M] [MonadLiftT Scan M] (body : M Bool) : M Bool := do
  let saved ← saveCursor
  let succeeded ← body
  restoreCursor saved
  return succeeded

end Scan

end Stemming
