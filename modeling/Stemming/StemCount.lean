import Std.Data.HashMap
import Stemming.Stemmer
import Stemming.Text.Words

set_option autoImplicit false

namespace Stemming

/-- The stems met so far, each with the number of its occurrences. -/
structure StemCount where
  occurrences : Std.HashMap String Nat

namespace StemCount

def empty : StemCount :=
  ⟨∅⟩

def add (count : StemCount) (stem : String) : StemCount :=
  ⟨count.occurrences.insert stem (count.occurrences.getD stem 0 + 1)⟩

def addText (count : StemCount) (stemmer : Stemmer) (text : String) : StemCount :=
  (Text.words text).foldl (fun count word => count.add (stemmer.stem word)) count

/-- Whether a row may stand before another. -/
def rowLE (first second : String × Nat) : Bool :=
  second.2 < first.2 || (first.2 == second.2 && decide (first.1 ≤ second.1))

def rows (count : StemCount) : List (String × Nat) :=
  count.occurrences.toList.mergeSort rowLE

def ofTexts (stemmer : Stemmer) (texts : List String) : StemCount :=
  texts.foldl (fun count text => count.addText stemmer text) empty

end StemCount

end Stemming
