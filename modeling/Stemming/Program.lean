import Stemming.Scan.Cursor

set_option autoImplicit false

namespace Stemming

/-- The rules of a language, as an action of the kind `M`. They run on a fresh state for each
word. -/
structure RuleProgram (M : Type → Type) where
  markCount : Nat
  run : M Unit

namespace RuleProgram

/-- Runs the rules, checks the state that they leave, and gives its letters. -/
def stem {M : Type → Type} [Monad M] [MonadLiftT Scan M] (program : RuleProgram M) :
    M (List Char) := do
  program.run
  Scan.checkInvariants
  return (← Scan.state).letters

/-- The stem of a word whose letters are already folded. -/
def execute (program : RuleProgram Scan) (word : List Char) : Except Halt (List Char) :=
  (program.stem (ScanState.ofWord word program.markCount)).result

end RuleProgram

end Stemming
