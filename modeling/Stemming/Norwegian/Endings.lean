import Stemming.LetterSet
import Stemming.RuleTable.Basic

set_option autoImplicit false

namespace Stemming.Norwegian

/-- What becomes of an inflectional ending. -/
inductive Effect where
  | delete
  /-- The ending is dropped after a letter that takes an s, or after a k that follows no vowel. -/
  | deleteAfterSEnding
  | replaceWithEr
  deriving DecidableEq, Repr

def Effect.name : Effect → String
  | .delete => "Delete"
  | .deleteAfterSEnding => "DeleteAfterSEnding"
  | .replaceWithEr => "ReplaceWithEr"

/-- Inflectional endings, sorted from the last letter, each linked to the longest entry that it ends
with. -/
def mainSuffixes : RuleTable Scan Effect :=
  [.plain "a" none .delete,
   .plain "e" none .delete,
   .plain "ede" (some 1) .delete,
   .plain "ande" (some 1) .delete,
   .plain "ende" (some 1) .delete,
   .plain "ane" (some 1) .delete,
   .plain "ene" (some 1) .delete,
   .plain "hetene" (some 6) .delete,
   .plain "erte" (some 1) .replaceWithEr,
   .plain "en" none .delete,
   .plain "heten" (some 9) .delete,
   .plain "ar" none .delete,
   .plain "er" none .delete,
   .plain "heter" (some 12) .delete,
   .plain "s" none .deleteAfterSEnding,
   .plain "as" (some 14) .delete,
   .plain "es" (some 14) .delete,
   .plain "edes" (some 16) .delete,
   .plain "endes" (some 16) .delete,
   .plain "enes" (some 16) .delete,
   .plain "hetenes" (some 19) .delete,
   .plain "ens" (some 14) .delete,
   .plain "hetens" (some 21) .delete,
   .plain "ers" (some 14) .delete,
   .plain "ets" (some 14) .delete,
   .plain "et" none .delete,
   .plain "het" (some 25) .delete,
   .plain "ert" none .replaceWithEr,
   .plain "ast" none .delete]

/-- Endings in two consonants, of which only the last is dropped. -/
def consonantPairs : RuleTable Scan Unit :=
  [.plain "dt" none (),
   .plain "vt" none ()]

/-- Derivational endings. -/
def otherSuffixes : RuleTable Scan Unit :=
  [.plain "leg" none (),
   .plain "eleg" (some 0) (),
   .plain "ig" none (),
   .plain "eig" (some 2) (),
   .plain "lig" (some 2) (),
   .plain "elig" (some 4) (),
   .plain "els" none (),
   .plain "lov" none (),
   .plain "elov" (some 7) (),
   .plain "slov" (some 7) (),
   .plain "hetslov" (some 9) ()]

/-- The vowels a e i o u y æ å ø. -/
def vowels : LetterSet where
  first := 97
  last := 248
  table := [17, 65, 16, 1, 0, 0, 0, 0, 0, 0, 0, 0, 0, 0, 0, 0, 48, 0, 128]

/-- The consonants b c d f g h j l m n o p r t v y z, after which a final s is an ending. -/
def sEndings : LetterSet where
  first := 98
  last := 122
  table := [119, 125, 149, 1]

theorem vowels_members :
    (List.range 256).filter (fun code => vowels.contains (Char.ofNat code)) =
      "aeiouyåæø".toList.map Char.toNat := by
  decide

theorem sEndings_members :
    (List.range 256).filter (fun code => sEndings.contains (Char.ofNat code)) =
      "bcdfghjlmnoprtvyz".toList.map Char.toNat := by
  decide

theorem violation?_mainSuffixes : mainSuffixes.violation? .backward = none := by
  decide +kernel

theorem violation?_consonantPairs : consonantPairs.violation? .backward = none := by
  decide +kernel

theorem violation?_otherSuffixes : otherSuffixes.violation? .backward = none := by
  decide +kernel

end Stemming.Norwegian
