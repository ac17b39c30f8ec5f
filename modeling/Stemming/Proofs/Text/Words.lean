import Stemming.Text.Words

set_option autoImplicit false

namespace Stemming.Text

section

variable {α : Type} {accepted : α → Bool}

theorem runs_cons_of_not_accepted {first : α} (outside : accepted first = false) (rest : List α) :
    runs accepted (first :: rest) = runs accepted rest := by
  cases rest with
  | nil => simp [runs, outside]
  | cons second rest => simp [runs, outside]

theorem consFirst_ne_nil (first : α) (lists : List (List α)) : consFirst first lists ≠ [] := by
  cases lists <;> simp [consFirst]

theorem runs_cons_ne_nil {first : α} (inside : accepted first = true) (rest : List α) :
    runs accepted (first :: rest) ≠ [] := by
  cases rest with
  | nil => simp [runs, inside]
  | cons second rest =>
      simp only [runs, inside, ↓reduceIte]
      split
      · exact consFirst_ne_nil _ _
      · exact List.cons_ne_nil _ _

theorem consFirst_append (first : α) {lists : List (List α)} (nonempty : lists ≠ [])
    (others : List (List α)) :
    consFirst first (lists ++ others) = consFirst first lists ++ others := by
  cases lists with
  | nil => exact absurd rfl nonempty
  | cons run rest => rfl

/-- No run goes on across an element that is not accepted. -/
theorem runs_append_cons {gap : α} (outside : accepted gap = false) (before after : List α) :
    runs accepted (before ++ gap :: after) = runs accepted before ++ runs accepted after := by
  have skipped := runs_cons_of_not_accepted outside after
  induction before using runs.induct accepted with
  | case1 => exact skipped
  | case2 last inside => simp [runs, inside, outside, skipped]
  | case3 last rejected => simp [runs, rejected, skipped]
  | case4 first second rest inside secondInside ih =>
      have nonempty := runs_cons_ne_nil secondInside rest
      simp only [List.cons_append] at ih ⊢
      simp only [runs, inside, secondInside, ↓reduceIte, ih]
      exact consFirst_append first nonempty _
  | case5 first second rest inside rejected ih =>
      simp only [List.cons_append] at ih ⊢
      simp only [runs, inside, rejected, ↓reduceIte, ih]
      rfl
  | case6 first second rest rejected ih =>
      simp only [List.cons_append] at ih ⊢
      simp only [runs, rejected, ih]
      rfl

theorem runs_append_of_not_accepted {gap : List α}
    (outside : ∀ element ∈ gap, accepted element = false) (after : List α) :
    runs accepted (gap ++ after) = runs accepted after := by
  induction gap with
  | nil => rfl
  | cons first rest ih =>
      rw [List.cons_append, runs_cons_of_not_accepted (outside first List.mem_cons_self)]
      exact ih fun element member => outside element (List.mem_cons_of_mem first member)

theorem runs_append_gap {gap : List α} (nonempty : gap ≠ [])
    (outside : ∀ element ∈ gap, accepted element = false) (before after : List α) :
    runs accepted (before ++ gap ++ after) = runs accepted before ++ runs accepted after := by
  cases gap with
  | nil => exact absurd rfl nonempty
  | cons first rest =>
      rw [List.append_assoc, List.cons_append,
        runs_append_cons (outside first List.mem_cons_self),
        runs_append_of_not_accepted fun element member =>
          outside element (List.mem_cons_of_mem first member)]

theorem runs_of_accepted {run : List α} (nonempty : run ≠ [])
    (inside : ∀ element ∈ run, accepted element = true) : runs accepted run = [run] := by
  induction run with
  | nil => exact absurd rfl nonempty
  | cons first rest ih =>
      obtain ⟨firstInside, restInside⟩ := List.forall_mem_cons.mp inside
      cases rest with
      | nil => simp only [runs, firstInside, ↓reduceIte]
      | cons second rest =>
          have secondInside := restInside second List.mem_cons_self
          simp only [runs, firstInside, secondInside, ↓reduceIte,
            ih (List.cons_ne_nil second rest) restInside, consFirst]

/-- The runs are what a split at every element that is not accepted leaves, without its empty
parts. -/
theorem runs_eq_filter_splitOnP (elements : List α) :
    runs accepted elements =
      (elements.splitOnP fun element => !accepted element).filter fun part => !part.isEmpty := by
  induction elements using runs.induct accepted with
  | case1 => rfl
  | case2 last inside => simp [runs, inside, List.splitOnP_cons_eq_if_modifyHead]
  | case3 last rejected => simp [runs, rejected, List.splitOnP_cons_eq_if_modifyHead]
  | case4 first second rest inside secondInside ih =>
      -- The first part of the rest goes on in front with both elements.
      obtain ⟨part, parts, split⟩ := List.exists_cons_of_ne_nil
        (List.splitOnP_ne_nil (fun element => !accepted element) rest)
      simp only [List.splitOnP_cons_eq_if_modifyHead, secondInside, split] at ih
      simp [runs, inside, secondInside, ih, List.splitOnP_cons_eq_if_modifyHead, split, consFirst]
  | case5 first second rest inside rejected ih =>
      simp only [List.splitOnP_cons_eq_if_modifyHead, rejected] at ih
      simp [runs, inside, rejected, ih, List.splitOnP_cons_eq_if_modifyHead]
  | case6 first second rest rejected ih =>
      simp [runs, rejected, ih, List.splitOnP_cons_eq_if_modifyHead]

end

theorem words_append_gap {gap : String} (nonempty : gap ≠ "")
    (outside : ∀ letter ∈ gap.toList, isAlphabetic letter = false) (before after : String) :
    words (before ++ gap ++ after) = words before ++ words after := by
  have letters : gap.toList ≠ [] := fun empty => nonempty (String.toList_eq_nil_iff.mp empty)
  rw [words, String.toList_append, String.toList_append, runs_append_gap letters outside,
    List.map_append]
  rfl

end Stemming.Text
