import Stemming.Scan.Cursor

set_option autoImplicit false

namespace Stemming

/-- Whether a scan looks for letters in a set or out of it. -/
inductive Membership where
  | inside
  | outside
  deriving DecidableEq, Repr

/-- A set of letters as a bit table over a range of code points that is not empty. Bit `n` of the
table, counted from the low bit of its first byte, stands for the `n`-th code point of the range;
code points outside the range or beyond the table are not in the set. -/
structure LetterSet where
  first : Nat
  last : Nat
  table : List UInt8
  first_le_last : first ≤ last := by decide
  deriving DecidableEq, Repr

namespace LetterSet

def ofRange? (first last : Nat) (table : List UInt8) : Option LetterSet :=
  if ordered : first ≤ last then some ⟨first, last, table, ordered⟩ else none

/-- Whether bit `offset` of a bit table is set. -/
def bitSet (table : List UInt8) (offset : Nat) : Bool :=
  match table[offset / 8]? with
  | some byte => byte.toNat.testBit (offset % 8)
  | none => false

def contains (set : LetterSet) (letter : Char) : Bool :=
  let code := letter.toNat
  set.first ≤ code && code ≤ set.last && bitSet set.table (code - set.first)

/-- Whether a scan for `membership` in the set stops at `letter`. -/
def accepts (set : LetterSet) (membership : Membership) (letter : Char) : Bool :=
  match membership with
  | .inside => set.contains letter
  | .outside => !set.contains letter

end LetterSet

namespace Scan

/-- Moves the cursor past the next letter in `direction`, if there is one and it is accepted. -/
def test (set : LetterSet) (direction : Direction) (membership : Membership) : Scan Bool := do
  match ← peek direction with
  | none => return false
  | some letter =>
    if set.accepts membership letter then
      update fun s => s.advance direction 1
      return true
    else
      return false

/-- Looks at the next letter. The scan ends if there is none or it is accepted, with the cursor past
the accepted letter if `past` is true; if the letter is refused, `next` comes. -/
def seekOr (set : LetterSet) (direction : Direction) (membership : Membership) (past : Bool)
    (next : Scan Bool) : Scan Bool := do
  match ← peek direction with
  | none => return false
  | some letter =>
    if set.accepts membership letter then
      if past then update fun s => s.advance direction 1
      return true
    else next

/-- Moves the cursor until the next letter is accepted, over at most `fuel` letters. -/
def seekFor (set : LetterSet) (direction : Direction) (membership : Membership) (past : Bool) :
    (fuel : Nat) → Scan Bool
  | 0 => seekOr set direction membership past (trap .endlessSearch)
  | fuel + 1 =>
    seekOr set direction membership past do
      update fun s => s.advance direction 1
      seekFor set direction membership past fuel

/-- Moves the cursor to just before the next accepted letter in `direction`; if the window holds
none, to the end of the window. -/
def seek (set : LetterSet) (direction : Direction) (membership : Membership) : Scan Bool :=
  fun s => seekFor set direction membership false ((s.room? direction).getD 0) s

/-- Moves the cursor to just past the next accepted letter in `direction`; if the window holds
none, to the end of the window. -/
def seekPast (set : LetterSet) (direction : Direction) (membership : Membership) : Scan Bool :=
  fun s => seekFor set direction membership true ((s.room? direction).getD 0) s

end Scan

end Stemming
