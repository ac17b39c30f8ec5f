import Stemming.Proofs.Scan.Edits

set_option autoImplicit false

namespace Stemming

namespace ScanState

variable {s : ScanState}

theorem sliceEnd_replaced (text : List Char) (inOrder : s.SliceInOrder) :
    (s.replaced s.sliceStart s.sliceEnd text).sliceEnd = s.sliceStart + text.length := by
  have ordered := inOrder.1
  show shifted s.sliceStart s.sliceEnd text.length s.sliceEnd = _
  rw [shifted_of_stop_le (Nat.le_refl _)]
  omega

theorem sliceStart_replaced_of_lt (text : List Char) (letters : s.sliceStart < s.sliceEnd) :
    (s.replaced s.sliceStart s.sliceEnd text).sliceStart = s.sliceStart :=
  shifted_of_le_start (Nat.le_refl _) letters

theorem sliceStart_replaced_of_empty (text : List Char) (inOrder : s.SliceInOrder)
    (empty : s.sliceStart = s.sliceEnd) :
    (s.replaced s.sliceStart s.sliceEnd text).sliceStart = s.sliceStart + text.length := by
  rw [← sliceEnd_replaced text inOrder]
  show shifted _ _ _ s.sliceStart = shifted _ _ _ s.sliceEnd
  rw [empty]

/-- The start of the slice stays just where the slice had letters or the new text has none. -/
theorem sliceStart_replaced_eq_iff (text : List Char) (inOrder : s.SliceInOrder) :
    (s.replaced s.sliceStart s.sliceEnd text).sliceStart = s.sliceStart ↔
      s.sliceStart < s.sliceEnd ∨ text = [] := by
  rcases Nat.lt_or_eq_of_le inOrder.1 with letters | empty
  · simp only [sliceStart_replaced_of_lt text letters, letters, true_or]
  · have still : ¬ s.sliceStart < s.sliceEnd := by omega
    rw [sliceStart_replaced_of_empty text inOrder empty, Nat.add_eq_left,
      List.length_eq_zero_iff, or_iff_right still]

theorem SliceInOrder.edited {start stop : Nat} (inOrder : s.SliceInOrder) (text : List Char)
    (spans : start ≤ stop) (inside : stop ≤ s.length) :
    (s.replaced start stop text).SliceInOrder := by
  obtain ⟨ordered, below, fits⟩ := inOrder
  refine ⟨shifted_mono spans ordered, shifted_mono spans below, ?_⟩
  rw [length_replaced text spans inside]
  exact shifted_mono spans fits

theorem SliceInOrder.replaced (inOrder : s.SliceInOrder) (text : List Char) :
    (s.replaced s.sliceStart s.sliceEnd text).SliceInOrder :=
  inOrder.edited text inOrder.1 (Nat.le_trans inOrder.2.1 inOrder.2.2)

/-- The new text stands before the end of the slice. -/
theorem take_sliceEnd_replaced (text : List Char) (inOrder : s.SliceInOrder) :
    (s.replaced s.sliceStart s.sliceEnd text).letters.take
        (s.replaced s.sliceStart s.sliceEnd text).sliceEnd =
      s.letters.take s.sliceStart ++ text := by
  have ordered := inOrder.1
  have fits : s.sliceEnd ≤ s.letters.length := Nat.le_trans inOrder.2.1 inOrder.2.2
  rw [sliceEnd_replaced text inOrder]
  show (s.letters.take s.sliceStart ++ text ++ s.letters.drop s.sliceEnd).take _ = _
  apply List.take_left'
  rw [List.length_append, List.length_take, Nat.min_eq_left (by omega)]

/-- Replacing a slice twice: the second text takes the place of the first, or stands after it if
the slice was empty. -/
theorem letters_replaced_replaced (first second : List Char) (inOrder : s.SliceInOrder) :
    ((s.replaced s.sliceStart s.sliceEnd first).replaced
        (s.replaced s.sliceStart s.sliceEnd first).sliceStart
        (s.replaced s.sliceStart s.sliceEnd first).sliceEnd second).letters =
      s.letters.take s.sliceStart ++ (if s.sliceStart < s.sliceEnd then [] else first) ++
        second ++ s.letters.drop s.sliceEnd := by
  have ordered := inOrder.1
  have inside : s.sliceEnd ≤ s.length := Nat.le_trans inOrder.2.1 inOrder.2.2
  have rest : (s.replaced s.sliceStart s.sliceEnd first).letters.drop
      (s.replaced s.sliceStart s.sliceEnd first).sliceEnd = s.letters.drop s.sliceEnd :=
    drop_replaced first ordered inside (Nat.le_refl _)
  have upTo : (s.replaced s.sliceStart s.sliceEnd first).letters.take
      (s.replaced s.sliceStart s.sliceEnd first).sliceStart =
        s.letters.take s.sliceStart ++ (if s.sliceStart < s.sliceEnd then [] else first) := by
    by_cases letters : s.sliceStart < s.sliceEnd
    · rw [sliceStart_replaced_of_lt first letters, if_pos letters, List.append_nil]
      exact take_replaced first (Nat.le_refl _) (Nat.le_trans ordered inside)
    · -- the start of the slice went behind the first text
      have empty : s.sliceStart = s.sliceEnd := by omega
      rw [sliceStart_replaced_of_empty first inOrder empty, ← sliceEnd_replaced first inOrder,
        take_sliceEnd_replaced first inOrder, if_neg letters]
  show List.take _ _ ++ second ++ List.drop _ _ = _
  rw [upTo, rest]

end ScanState

namespace Scan

variable {s : ScanState}

theorem sliceText_eq (inOrder : s.SliceInOrder) :
    sliceText s = .returned ((s.letters.take s.sliceEnd).drop s.sliceStart) s :=
  if_pos inOrder

theorem sliceText_replaced (text : List Char) (inOrder : s.SliceInOrder)
    (stayed : (s.replaced s.sliceStart s.sliceEnd text).sliceStart = s.sliceStart) :
    sliceText (s.replaced s.sliceStart s.sliceEnd text) =
      .returned text (s.replaced s.sliceStart s.sliceEnd text) := by
  have fits : s.sliceEnd ≤ s.letters.length := Nat.le_trans inOrder.2.1 inOrder.2.2
  have ordered := inOrder.1
  rw [sliceText_eq (inOrder.replaced text), ScanState.take_sliceEnd_replaced text inOrder, stayed,
    List.drop_left' (by rw [List.length_take]; omega)]

/-- A slice that can be edited can be replaced by any text. The slice is the new text from then on,
and replacing it once more leaves nothing of that text, if there was a letter in the slice or there
is none in the text, and only then: the new text in place of an empty slice stands before the
slice. -/
theorem replaceSlice_covers_iff (inOrder : s.SliceInOrder) (text : List Char) :
    ∃ after, replaceSlice text s = .returned () after ∧
      (after.sliceStart = s.sliceStart ∧ after.sliceEnd = s.sliceStart + text.length ∧
          sliceText after = .returned text after ↔
        s.sliceStart < s.sliceEnd ∨ text = []) ∧
      ∀ next, ∃ twice once, replaceSlice next after = .returned () twice ∧
        replaceSlice next s = .returned () once ∧
        (twice.letters = once.letters ↔ s.sliceStart < s.sliceEnd ∨ text = []) := by
  have again := inOrder.replaced text
  refine ⟨_, replaceSlice_eq inOrder text, ?covers, fun next =>
    ⟨_, _, replaceSlice_eq again next, replaceSlice_eq inOrder next, ?twice⟩⟩
  case covers =>
    rw [← ScanState.sliceStart_replaced_eq_iff text inOrder]
    constructor
    · exact fun covered => covered.1
    · exact fun stayed => ⟨stayed, ScanState.sliceEnd_replaced text inOrder,
        sliceText_replaced text inOrder stayed⟩
  case twice =>
    rw [ScanState.letters_replaced_replaced text next inOrder]
    show _ = s.letters.take s.sliceStart ++ next ++ s.letters.drop s.sliceEnd ↔ _
    rw [List.append_left_inj, List.append_left_inj, List.append_right_eq_self]
    by_cases letters : s.sliceStart < s.sliceEnd
    · simp only [letters, ↓reduceIte, true_or]
    · simp only [letters, ↓reduceIte, false_or]

/-- An ending becomes `er`, and `er` becomes `a`. -/
theorem replaceSlice_covers_iff_ert :
    ∃ after, replaceSlice ['e', 'r']
        ⟨['l', 'y', 's', 'e', 'r', 't', 'e'], 7, 0, 7, 3, 7, [3], .backward⟩ = .returned () after ∧
      sliceText after = .returned ['e', 'r'] after ∧
      ∃ twice, replaceSlice ['a'] after = .returned () twice ∧
        twice.letters = ['l', 'y', 's', 'a'] := by
  have inOrder : ScanState.SliceInOrder
      ⟨['l', 'y', 's', 'e', 'r', 't', 'e'], 7, 0, 7, 3, 7, [3], .backward⟩ := by decide
  obtain ⟨after, ran, covers, again⟩ := replaceSlice_covers_iff inOrder ['e', 'r']
  obtain ⟨twice, once, ranTwice, ranOnce, same⟩ := again ['a']
  have single : once.letters = ['l', 'y', 's', 'a'] := by
    obtain ⟨-, rfl⟩ := Outcome.returned.inj ranOnce
    rfl
  exact ⟨after, ran, (covers.mpr (by decide)).2.2, twice, ranTwice,
    (same.mpr (by decide)).trans single⟩

/-- In place of an empty slice the new text is not the slice, and a second text comes after it. -/
theorem replaceSlice_passes_empty_slice :
    replaceSlice ['x', 'y'] ⟨['a', 'b', 'c'], 1, 0, 3, 1, 1, [], .forward⟩ =
      .returned () ⟨['a', 'x', 'y', 'b', 'c'], 3, 0, 5, 3, 3, [], .forward⟩ ∧
    sliceText ⟨['a', 'x', 'y', 'b', 'c'], 3, 0, 5, 3, 3, [], .forward⟩ =
      .returned [] ⟨['a', 'x', 'y', 'b', 'c'], 3, 0, 5, 3, 3, [], .forward⟩ ∧
    replaceSlice ['z'] ⟨['a', 'x', 'y', 'b', 'c'], 3, 0, 5, 3, 3, [], .forward⟩ =
      .returned () ⟨['a', 'x', 'y', 'z', 'b', 'c'], 4, 0, 6, 4, 4, [], .forward⟩ ∧
    replaceSlice ['z'] ⟨['a', 'b', 'c'], 1, 0, 3, 1, 1, [], .forward⟩ =
      .returned () ⟨['a', 'z', 'b', 'c'], 2, 0, 4, 2, 2, [], .forward⟩ := by
  decide

end Scan

end Stemming
