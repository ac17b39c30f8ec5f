import Stemming.Proofs.Scan.Slices

set_option autoImplicit false

namespace Stemming

section

variable {start stop next last lower upper : Nat}

/-- A position before the end of the lower letters is not moved by the upper edit. It would be if
the upper edit inserted just behind the lower letters and these were taken off first. -/
theorem shifted_comm_of_lt {position : Nat} (below : position < stop) (apart : stop ≤ next)
    (upperSpans : next ≤ last) (clear : start = stop ∨ stop < last) :
    shifted start stop lower (shifted next last upper position) =
      shifted (next - (stop - start) + lower) (last - (stop - start) + lower) upper
        (shifted start stop lower position) := by
  rw [shifted_of_le_start (by omega : position ≤ next) (by omega)]
  symm
  rcases Nat.lt_or_ge start position with inside | before
  · -- the lower edit has letters, so the upper one ends further up
    rw [shifted_of_inside inside below]
    exact shifted_of_le_start (by omega) (by omega)
  · rw [shifted_of_le_start before below]
    exact shifted_of_le_start (by omega) (by omega)

theorem shifted_comm_of_le {position : Nat} (above : stop ≤ position) (apart : stop ≤ next)
    (upperSpans : next ≤ last) :
    shifted start stop lower (shifted next last upper position) =
      shifted (next - (stop - start) + lower) (last - (stop - start) + lower) upper
        (shifted start stop lower position) := by
  rw [shifted_of_stop_le above]
  rcases Nat.lt_or_ge position last with notBehind | behind
  · rcases Nat.lt_or_ge next position with inside | between
    · rw [shifted_of_inside inside notBehind, shifted_of_stop_le apart]
      exact (shifted_of_inside (by omega) (by omega)).symm
    · rw [shifted_of_le_start between notBehind, shifted_of_stop_le above]
      exact (shifted_of_le_start (by omega) (by omega)).symm
  · rw [shifted_of_stop_le behind, shifted_of_stop_le (by omega), shifted_of_stop_le (by omega)]
    omega

/-- Where two edits take a position does not depend on which of them comes first. The lower one
replaces the letters from `start` up to `stop`, the upper one those from `next` up to `last`. -/
theorem shifted_comm (apart : stop ≤ next) (upperSpans : next ≤ last)
    (clear : start = stop ∨ stop < last) (position : Nat) :
    shifted start stop lower (shifted next last upper position) =
      shifted (shifted start stop lower next) (shifted start stop lower last) upper
        (shifted start stop lower position) := by
  rw [shifted_of_stop_le apart, shifted_of_stop_le (Nat.le_trans apart upperSpans)]
  rcases Nat.lt_or_ge position stop with below | above
  · exact shifted_comm_of_lt below apart upperSpans clear
  · exact shifted_comm_of_le above apart upperSpans

end

namespace ScanState

variable {s : ScanState} {start stop next last : Nat}

/-- From a position up to the replaced letters on, the rest of the text there, the new text and the
text behind the replaced letters follow. -/
theorem drop_replaced_of_le (text : List Char) {position : Nat} (before : position ≤ start)
    (inside : start ≤ s.length) :
    (s.replaced start stop text).letters.drop position =
      (s.letters.take start).drop position ++ text ++ s.letters.drop stop := by
  have fits : start ≤ s.letters.length := inside
  show (s.letters.take start ++ text ++ s.letters.drop stop).drop position = _
  rw [List.append_assoc, List.drop_append_of_le_length (by rw [List.length_take]; omega),
    List.append_assoc]

theorem take_replaced_of_le (text : List Char) {position : Nat} (spans : start ≤ stop)
    (inside : stop ≤ s.length) (after : stop ≤ position) :
    (s.replaced start stop text).letters.take (shifted start stop text.length position) =
      s.letters.take start ++ text ++ (s.letters.take position).drop stop := by
  show (s.letters.take start ++ text ++ s.letters.drop stop).take _ = _
  rw [shifted_eq_length_add text spans inside after, List.take_length_add_append, List.take_drop,
    Nat.add_sub_cancel' after]

/-- The two edits may change places. -/
theorem replaced_comm (lower upper : List Char) (spans : start ≤ stop) (apart : stop ≤ next)
    (upperSpans : next ≤ last) (inside : last ≤ s.length) (clear : start = stop ∨ stop < last) :
    (s.replaced next last upper).replaced start stop lower =
      (s.replaced start stop lower).replaced (shifted start stop lower.length next)
        (shifted start stop lower.length last) upper := by
  have lowerInside : stop ≤ s.length := Nat.le_trans apart (Nat.le_trans upperSpans inside)
  have upperInside : next ≤ s.length := Nat.le_trans upperSpans inside
  have moves (position : Nat) :
      shifted start stop lower.length (shifted next last upper.length position) =
        shifted (shifted start stop lower.length next) (shifted start stop lower.length last)
          upper.length (shifted start stop lower.length position) :=
    shifted_comm apart upperSpans clear position
  have letters : ((s.replaced next last upper).replaced start stop lower).letters =
      ((s.replaced start stop lower).replaced (shifted start stop lower.length next)
        (shifted start stop lower.length last) upper).letters := by
    show (s.replaced next last upper).letters.take start ++ lower ++
        (s.replaced next last upper).letters.drop stop =
      (s.replaced start stop lower).letters.take _ ++ upper ++
        (s.replaced start stop lower).letters.drop _
    rw [take_replaced upper (Nat.le_trans spans apart) upperInside,
      drop_replaced_of_le upper apart upperInside,
      take_replaced_of_le lower spans lowerInside apart,
      drop_replaced lower spans lowerInside (Nat.le_trans apart upperSpans)]
    simp only [List.append_assoc]
  have marks : (s.marks.map (shifted next last upper.length)).map
        (shifted start stop lower.length) =
      (s.marks.map (shifted start stop lower.length)).map
        (shifted (shifted start stop lower.length next) (shifted start stop lower.length last)
          upper.length) := by
    rw [List.map_map, List.map_map]
    exact List.map_congr_left fun position _ => moves position
  exact (ScanState.mk.injEq ..).mpr
    ⟨letters, moves _, moves _, moves _, moves _, moves _, marks, rfl⟩

end ScanState

namespace Scan

variable {s : ScanState} {position : Nat}

theorem insert_eq (inWord : position ≤ s.length) (text : List Char) :
    insert position text s = .returned () (s.replaced position position text) :=
  replaceRange_eq (Nat.le_refl _) inWord text

theorem insert_bind_replaceSlice (inOrder : s.SliceInOrder) (inWord : position ≤ s.length)
    (inserted text : List Char) :
    (do insert position inserted; replaceSlice text : Scan Unit) s =
      .returned () ((s.replaced position position inserted).replaced
        (shifted position position inserted.length s.sliceStart)
        (shifted position position inserted.length s.sliceEnd) text) := by
  rw [bind_of_returned (insert_eq inWord inserted)]
  exact replaceSlice_eq (inOrder.edited inserted (Nat.le_refl _) inWord) text

theorem replaceSlice_bind_insert (inOrder : s.SliceInOrder) (text inserted : List Char)
    (inWord : position ≤ (s.replaced s.sliceStart s.sliceEnd text).length) :
    (do replaceSlice text; insert position inserted : Scan Unit) s =
      .returned () ((s.replaced s.sliceStart s.sliceEnd text).replaced position position
        inserted) := by
  rw [bind_of_returned (replaceSlice_eq inOrder text)]
  exact insert_eq inWord inserted

/-- An insertion before the slice or behind it may change places with the replacement of the slice.
Behind the slice it goes, if it comes second, where the replacement has taken the text. -/
theorem insert_replaceSlice_comm (inOrder : s.SliceInOrder) (inWord : position ≤ s.length)
    (apart : position ≤ s.sliceStart ∨ s.sliceEnd < position) (inserted text : List Char) :
    ∃ after,
      (do insert position inserted; replaceSlice text : Scan Unit) s = .returned () after ∧
      (do
        replaceSlice text
        insert (if position ≤ s.sliceStart then position
          else position - (s.sliceEnd - s.sliceStart) + text.length) inserted : Scan Unit) s =
        .returned () after := by
  have ordered := inOrder.1
  have inside : s.sliceEnd ≤ s.length := Nat.le_trans inOrder.2.1 inOrder.2.2
  have length := ScanState.length_replaced text ordered inside
  refine ⟨_, insert_bind_replaceSlice inOrder inWord inserted text, ?_⟩
  by_cases before : position ≤ s.sliceStart
  · have stillInWord : position ≤ (s.replaced s.sliceStart s.sliceEnd text).length := by
      rw [length, shifted_of_stop_le inside]
      omega
    rw [if_pos before, replaceSlice_bind_insert inOrder text inserted stillInWord,
      ScanState.replaced_comm inserted text (Nat.le_refl _) before ordered inside (.inl rfl)]
  · have behind : s.sliceEnd < position := apart.resolve_left before
    have moved : shifted s.sliceStart s.sliceEnd text.length position =
        position - (s.sliceEnd - s.sliceStart) + text.length :=
      shifted_of_stop_le (Nat.le_of_lt behind)
    have stillInWord : shifted s.sliceStart s.sliceEnd text.length position ≤
        (s.replaced s.sliceStart s.sliceEnd text).length := by
      rw [length]
      exact shifted_mono ordered inWord
    rw [if_neg before, ← moved, replaceSlice_bind_insert inOrder text inserted stillInWord,
      shifted_of_le_start (Nat.le_of_not_le before) (Nat.lt_of_not_le before),
      shifted_of_le_start (Nat.le_of_lt behind) behind,
      ScanState.replaced_comm text inserted ordered (Nat.le_of_lt behind) (Nat.le_refl _) inWord
        (.inr behind)]

/-- A letter just before the slice, and one behind it; the cursor is in the slice and there are
marks at both its ends. -/
theorem insert_replaceSlice_comm_katten :
    (do insert 2 ['s']; replaceSlice ['r', 'd', 'e'] : Scan Unit)
        ⟨['k', 'a', 't', 't', 'e', 'n'], 3, 0, 6, 2, 4, [2, 4], .forward⟩ =
      .returned () ⟨['k', 'a', 's', 'r', 'd', 'e', 'e', 'n'], 3, 0, 8, 3, 6, [3, 6], .forward⟩ ∧
    (do replaceSlice ['r', 'd', 'e']; insert 2 ['s'] : Scan Unit)
        ⟨['k', 'a', 't', 't', 'e', 'n'], 3, 0, 6, 2, 4, [2, 4], .forward⟩ =
      .returned () ⟨['k', 'a', 's', 'r', 'd', 'e', 'e', 'n'], 3, 0, 8, 3, 6, [3, 6], .forward⟩ ∧
    (do replaceSlice ['r', 'd', 'e']; insert 6 ['s'] : Scan Unit)
        ⟨['k', 'a', 't', 't', 'e', 'n'], 3, 0, 6, 2, 4, [2, 4], .forward⟩ =
      .returned () ⟨['k', 'a', 'r', 'd', 'e', 'e', 's', 'n'], 2, 0, 8, 2, 5, [2, 5], .forward⟩ := by
  have inOrder : ScanState.SliceInOrder
      ⟨['k', 'a', 't', 't', 'e', 'n'], 3, 0, 6, 2, 4, [2, 4], .forward⟩ := by decide
  have inWord : 2 ≤ ScanState.length
      ⟨['k', 'a', 't', 't', 'e', 'n'], 3, 0, 6, 2, 4, [2, 4], .forward⟩ := by decide
  have inWordBehind : 5 ≤ ScanState.length
      ⟨['k', 'a', 't', 't', 'e', 'n'], 3, 0, 6, 2, 4, [2, 4], .forward⟩ := by decide
  obtain ⟨after, first, second⟩ := insert_replaceSlice_comm inOrder inWord (.inl (by decide)) ['s']
    ['r', 'd', 'e']
  obtain ⟨-, rfl⟩ := Outcome.returned.inj first
  obtain ⟨last, third, fourth⟩ := insert_replaceSlice_comm inOrder inWordBehind
    (.inr (by decide)) ['s'] ['r', 'd', 'e']
  obtain ⟨-, rfl⟩ := Outcome.returned.inj third
  exact ⟨first, second, fourth⟩

end Scan

end Stemming
