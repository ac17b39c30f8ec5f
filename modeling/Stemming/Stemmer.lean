import Stemming.Language
import Stemming.Norwegian.Stages
import Stemming.Text.Lowercase

set_option autoImplicit false

namespace Stemming

def Language.program : Language → RuleProgram Scan
  | .norwegian => Norwegian.program

structure Stemmer where
  language : Language
  deriving DecidableEq, Repr

namespace Stemmer

def ofCode (code : String) : Except UnknownLanguage Stemmer :=
  (Language.ofCode code).map Stemmer.mk

/-- The stem of a word, or why its rules came to no end. The empty word is its own stem. -/
def tryStem (stemmer : Stemmer) (word : String) : Except Halt String :=
  if word.isEmpty then
    .ok word
  else
    (stemmer.language.program.execute (Text.fold word.toList)).map String.ofList

/-- The stem of a word. A word on which the rules came to no end would be left folded; the rules
that there are never do so. -/
def stem (stemmer : Stemmer) (word : String) : String :=
  match stemmer.tryStem word with
  | .ok result => result
  | .error _ => String.ofList (Text.fold word.toList)

/-- How a stemmer is shown: by its language alone. -/
def describe (stemmer : Stemmer) : String :=
  "Stemmer \x7b algorithm: " ++ stemmer.language.title ++ ", .. \x7d"

end Stemmer

end Stemming
