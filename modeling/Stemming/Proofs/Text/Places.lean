import Mathlib.Data.List.Basic
import Mathlib.Order.Bounds.Basic

set_option autoImplicit false

namespace Stemming

theorem isLeast_of_findIdx?_eq_some {α : Type} {list : List α} {accepts : α → Bool} {index : Nat}
    (found : list.findIdx? accepts = some index) :
    IsLeast {index | ∃ item, list[index]? = some item ∧ accepts item = true} index := by
  obtain ⟨inside, accepted, before⟩ := List.findIdx?_eq_some_iff_getElem.mp found
  refine ⟨⟨list[index], List.getElem?_eq_getElem inside, accepted⟩, ?_⟩
  rintro other ⟨item, otherFound, otherAccepted⟩
  obtain ⟨otherInside, rfl⟩ := List.getElem?_eq_some_iff.mp otherFound
  apply Nat.le_of_not_lt
  intro earlier
  exact before other earlier otherAccepted

namespace Text

variable {α : Type}

/-- The places of a list, from `start` on and before `stop`, at which an item is accepted. -/
def places (accepts : α → Bool) (list : List α) (start stop : Nat) : Set Nat :=
  {place | start ≤ place ∧ place < stop ∧ ∃ item, list[place]? = some item ∧ accepts item = true}

variable {accepts : α → Bool} {list : List α} {start stop : Nat}

theorem add_mem_places_iff (distance : Nat) :
    start + distance ∈ places accepts list start stop ↔
      ∃ item, ((list.take stop).drop start)[distance]? = some item ∧ accepts item = true := by
  rw [List.getElem?_drop, List.getElem?_take]
  by_cases inside : start + distance < stop
  · rw [if_pos inside]
    exact (and_iff_right (Nat.le_add_right start distance)).trans (and_iff_right inside)
  · rw [if_neg inside]
    exact iff_of_false (fun place => inside place.2.1) nofun

theorem isLeast_places_of_findIdx? {distance : Nat}
    (found : ((list.take stop).drop start).findIdx? accepts = some distance) :
    IsLeast (places accepts list start stop) (start + distance) := by
  obtain ⟨accepted, least⟩ := isLeast_of_findIdx?_eq_some found
  refine ⟨(add_mem_places_iff distance).mpr accepted, ?_⟩
  intro place member
  obtain ⟨other, rfl⟩ := Nat.exists_eq_add_of_le member.1
  exact Nat.add_le_add_left (least ((add_mem_places_iff other).mp member)) start

theorem isLeast_places_iff {place : Nat} :
    IsLeast (places accepts list start stop) place ↔
      ∃ distance, ((list.take stop).drop start).findIdx? accepts = some distance ∧
        place = start + distance := by
  constructor
  · intro first
    obtain ⟨other, rfl⟩ := Nat.exists_eq_add_of_le first.1.1
    obtain ⟨item, found, accepted⟩ := (add_mem_places_iff other).mp first.1
    cases searched : ((list.take stop).drop start).findIdx? accepts with
    | none =>
        have refused := List.findIdx?_eq_none_iff.mp searched item (List.mem_of_getElem? found)
        exact absurd accepted (by rw [refused]; exact Bool.false_ne_true)
    | some distance =>
        exact ⟨distance, rfl, first.unique (isLeast_places_of_findIdx? searched)⟩
  · rintro ⟨distance, found, rfl⟩
    exact isLeast_places_of_findIdx? found

end Text

end Stemming
