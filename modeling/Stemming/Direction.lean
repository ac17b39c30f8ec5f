set_option autoImplicit false

namespace Stemming

/-- The side of the cursor at which a scan looks. -/
inductive Direction where
  /-- The scan looks at the letter after the cursor and moves right. -/
  | forward
  /-- The scan looks at the letter before the cursor and moves left. -/
  | backward
  deriving DecidableEq, Repr

namespace Direction

/-- The letters of a text in the order in which a scan in this direction meets them. -/
def reading {α : Type} : Direction → List α → List α
  | .forward, letters => letters
  | .backward, letters => letters.reverse

@[simp] theorem reading_forward {α : Type} (letters : List α) :
    reading .forward letters = letters := rfl

@[simp] theorem reading_backward {α : Type} (letters : List α) :
    reading .backward letters = letters.reverse := rfl

@[simp] theorem length_reading {α : Type} (direction : Direction) (letters : List α) :
    (direction.reading letters).length = letters.length := by
  cases direction <;> simp

@[simp] theorem reading_reading {α : Type} (direction : Direction) (letters : List α) :
    direction.reading (direction.reading letters) = letters := by
  cases direction <;> simp

theorem reading_eq_iff {α : Type} (direction : Direction) (text other : List α) :
    direction.reading text = other ↔ text = direction.reading other := by
  constructor
  · rintro rfl
    rw [reading_reading]
  · rintro rfl
    rw [reading_reading]

end Direction

end Stemming
