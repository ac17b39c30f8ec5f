import Stemming.Text.Alphabetic

set_option autoImplicit false

namespace Stemming.Text

/-- Puts an element in front of the first list, or in a list of its own if there is none. -/
def consFirst {α : Type} (first : α) : List (List α) → List (List α)
  | [] => [[first]]
  | run :: rest => (first :: run) :: rest

/-- The maximal runs of elements that are accepted, in order. -/
def runs {α : Type} (accepted : α → Bool) : List α → List (List α)
  | [] => []
  | [last] => if accepted last then [[last]] else []
  | first :: second :: rest =>
    if accepted first then
      if accepted second then consFirst first (runs accepted (second :: rest))
      else [first] :: runs accepted (second :: rest)
    else
      runs accepted (second :: rest)

def words (text : String) : List String :=
  (runs isAlphabetic text.toList).map String.ofList

end Stemming.Text
