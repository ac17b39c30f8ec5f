import Stemming.RuleTable.Basic
import Stemming.Text.Quoted

set_option autoImplicit false

namespace Stemming

def describeLink : Option Nat → String
  | none => "None"
  | some index => s!"Some({index})"

/-- One entry with its parts by name. -/
def Entry.describe {M : Type → Type} {ρ : Type} (resultText : ρ → String) (entry : Entry M ρ) :
    String :=
  "Among \x7b pattern: " ++ Text.quoted (String.ofList entry.pattern) ++
    ", link: " ++ describeLink entry.link ++
    ", result: " ++ resultText entry.result ++
    ", has_condition: " ++ toString entry.condition.isSome ++ " \x7d"

end Stemming
