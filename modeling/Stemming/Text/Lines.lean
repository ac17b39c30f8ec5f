set_option autoImplicit false

namespace Stemming.Text

def lineFeed : UInt8 := 10

/-- The byte that is dropped just before a line feed. -/
def carriageReturn : UInt8 := 13

/-- A line with its bytes in reverse, without a carriage return at its end. -/
def withoutReturn : List UInt8 → List UInt8
  | [] => []
  | last :: rest => if last = carriageReturn then rest else last :: rest

/-- The lines of a stream of which the bytes in `line` have been read, the last of them first. -/
def linesFrom (line : List UInt8) : List UInt8 → List (List UInt8)
  | [] => if line.isEmpty then [] else [line.reverse]
  | byte :: rest =>
    if byte = lineFeed then (withoutReturn line).reverse :: linesFrom [] rest
    else linesFrom (byte :: line) rest

def lines (bytes : List UInt8) : List (List UInt8) :=
  linesFrom [] bytes

structure Reading where
  /-- The lines before the first that is not UTF-8. -/
  lines : List String
  complete : Bool
  deriving DecidableEq, Repr

def readLines : List (List UInt8) → Reading
  | [] => ⟨[], true⟩
  | line :: rest =>
    match String.fromUTF8? ⟨line.toArray⟩ with
    | none => ⟨[], false⟩
    | some text =>
      let reading := readLines rest
      { reading with lines := text :: reading.lines }

/-- Reads a stream up to the first line that is not UTF-8. -/
def readStream (bytes : List UInt8) : Reading :=
  readLines (lines bytes)

end Stemming.Text
