import Stemming.Proofs.Scan.Window

set_option autoImplicit false

namespace Stemming

section

variable {α : Type} (accepts : α → Bool) (text : List α)

theorem one_le_length_of_any_head? (accepted : text.head?.any accepts) : 1 ≤ text.length := by
  cases text with
  | nil => simp at accepted
  | cons => simp

theorem findIdx_past_le_length :
    text.findIdx accepts + (if text.any accepts then 1 else 0) ≤ text.length := by
  split
  · next accepted => exact List.findIdx_lt_length.mpr (List.any_eq_true.mp accepted)
  · exact List.findIdx_le_length

end

namespace Scan

variable {s : ScanState}

theorem letterAt_eq {position : Nat} {letter : Char}
    (found : s.letters[position]? = some letter) : letterAt position s = .returned letter s := by
  simp only [letterAt, found]

/-- Where a letter stands before the cursor, the cursor can go past it. -/
theorem cursor_advance_of_peek {letter : Char}
    (seen : peek .backward s = .returned (some letter) s) :
    (s.advance .backward 1).cursor + 1 = s.cursor := by
  simp only [peek] at seen
  split at seen
  · simp only [ScanState.advance]
    omega
  · cases seen

theorem peek_eq (ordered : s.WindowInOrder) (direction : Direction) :
    peek direction s = .returned (s.ahead direction).head? s := by
  have fits : s.windowEnd ≤ s.letters.length := ordered.end_le_length
  have below := ordered.cursor_le_end
  rw [List.head?_eq_getElem?]
  cases direction with
  | forward =>
      have room := ordered.length_ahead_forward
      by_cases inside : s.cursor < s.windowEnd
      · have found : s.letters[s.cursor]? = some s.letters[s.cursor] :=
          List.getElem?_eq_getElem (by omega)
        have seen : (s.ahead .forward)[0]? = s.letters[s.cursor]? :=
          ScanState.WindowInOrder.getElem?_ahead_forward inside
        simp only [peek, if_pos inside, map_apply, letterAt_eq found, seen, found]
      · rw [List.getElem?_eq_none (by omega)]
        simp only [peek, if_neg inside]
  | backward =>
      have room := ordered.length_ahead_backward
      by_cases inside : s.windowStart < s.cursor
      · have found : s.letters[s.cursor - 1]? = some s.letters[s.cursor - 1] :=
          List.getElem?_eq_getElem (by omega)
        have nonempty : 0 < (s.ahead .backward).length := by omega
        have seen : (s.ahead .backward)[0]? = s.letters[s.cursor - 1]? :=
          ordered.getElem?_ahead_backward nonempty
        simp only [peek, if_pos inside, map_apply, letterAt_eq found, seen, found]
      · rw [List.getElem?_eq_none (by omega)]
        simp only [peek, if_neg inside]

theorem hop_eq (ordered : s.WindowInOrder) (direction : Direction) (count : Nat) :
    hop direction count s =
      if count ≤ (s.ahead direction).length then .returned true (s.advance direction count)
      else .returned false s := by
  simp only [hop, ordered.room?_eq direction]
  by_cases room : count ≤ (s.ahead direction).length
  · rw [if_pos room, if_neg (by omega)]
  · rw [if_neg room, if_pos (by omega)]

theorem beside?_eq (ordered : s.WindowInOrder) (direction : Direction) {count : Nat}
    (room : count ≤ (s.ahead direction).length) :
    s.beside? direction count = some (direction.reading ((s.ahead direction).take count)) := by
  have fits : s.windowEnd ≤ s.letters.length := ordered.end_le_length
  have below := ordered.cursor_le_end
  cases direction with
  | forward =>
      rw [ordered.length_ahead_forward] at room
      have inWord : s.cursor + count ≤ s.length := by
        change s.cursor + count ≤ s.letters.length
        omega
      rw [ScanState.beside?, ScanState.segment?, if_pos inWord, ScanState.ahead,
        Direction.reading_forward, List.take_drop, List.take_take,
        Nat.min_eq_left (by omega)]
  | backward =>
      rw [ordered.length_ahead_backward] at room
      have inWord : s.cursor ≤ s.length := Nat.le_trans below fits
      have above := ordered.start_le_cursor
      rw [ScanState.beside?, ScanState.segment?, if_pos inWord, ScanState.ahead,
        Direction.reading_backward, List.take_reverse, List.reverse_reverse, List.drop_drop,
        List.length_drop, List.length_take]
      congr 2
      omega

/-- The first letters that a scan meets, in the order of the word, are a text if the scan meets that
text first. -/
theorem reading_take_eq_iff (direction : Direction) (letters text : List Char) :
    direction.reading (letters.take text.length) = text ↔ direction.reading text <+: letters := by
  rw [Direction.reading_eq_iff, List.prefix_iff_eq_take, Direction.length_reading, eq_comm]

theorem literal_eq (ordered : s.WindowInOrder) (direction : Direction) (text : List Char) :
    literal direction text s =
      if direction.reading text <+: s.ahead direction then
        .returned true (s.advance direction text.length)
      else .returned false s := by
  simp only [literal, ordered.room?_eq direction]
  by_cases room : (s.ahead direction).length < text.length
  · have absent : ¬ direction.reading text <+: s.ahead direction := by
      intro begins
      have := begins.length_le
      rw [Direction.length_reading] at this
      omega
    rw [if_pos room, if_neg absent]
  · simp only [if_neg room, beside?_eq ordered direction (Nat.le_of_not_lt room),
      reading_take_eq_iff]

theorem test_eq (ordered : s.WindowInOrder) (set : LetterSet) (direction : Direction)
    (membership : Membership) :
    test set direction membership s =
      if (s.ahead direction).head?.any (set.accepts membership) then
        .returned true (s.advance direction 1)
      else .returned false s := by
  rw [test, bind_of_returned (peek_eq ordered direction)]
  cases (s.ahead direction).head? with
  | none => rfl
  | some letter =>
      simp only [Option.any_some]
      rw [ite_apply]
      rfl

/-- A scan for an accepted letter passes the letters before the first one, or all if there is none.
It makes no more steps than there are letters in the window. -/
theorem seekFor_eq (set : LetterSet) (direction : Direction) (membership : Membership)
    (past : Bool) (fuel : Nat) {s : ScanState} (ordered : s.WindowInOrder)
    (enough : (s.ahead direction).length ≤ fuel) :
    seekFor set direction membership past fuel s =
      .returned ((s.ahead direction).any (set.accepts membership))
        (s.advance direction ((s.ahead direction).findIdx (set.accepts membership) +
          if past && (s.ahead direction).any (set.accepts membership) then 1 else 0)) := by
  induction fuel generalizing s with
  | zero =>
      have empty : s.ahead direction = [] := List.eq_nil_of_length_eq_zero (by omega)
      rw [seekFor, seekOr, bind_of_returned (peek_eq ordered direction)]
      simp [empty]
  | succ fuel ih =>
      rw [seekFor, seekOr, bind_of_returned (peek_eq ordered direction)]
      cases text : s.ahead direction with
      | nil => simp
      | cons letter others =>
          have room : 1 ≤ (s.ahead direction).length := by rw [text]; simp
          have step := ordered.ahead_advance direction room
          have rest := ih (ordered.advance direction room)
            (by rw [step, List.length_drop]; omega)
          rw [step, text, List.drop_one, List.tail_cons] at rest
          simp only [List.head?_cons]
          by_cases accepted : set.accepts membership letter
          · cases past <;> simp [bind_apply, accepted, List.findIdx_cons]
          · simp only [ite_apply, accepted, bind_apply, update_apply]
            simp only [Bool.false_eq_true, ↓reduceIte, rest, ScanState.advance_advance]
            simp only [List.any_cons, List.findIdx_cons, accepted, Bool.false_or, cond_false]
            congr 2
            omega

theorem seek_eq (ordered : s.WindowInOrder) (set : LetterSet) (direction : Direction)
    (membership : Membership) :
    seek set direction membership s =
      .returned ((s.ahead direction).any (set.accepts membership))
        (s.advance direction ((s.ahead direction).findIdx (set.accepts membership))) := by
  simp only [seek, ordered.room?_eq direction, Option.getD_some,
    seekFor_eq set direction membership false _ ordered (Nat.le_refl _), Bool.false_and,
    Bool.false_eq_true, ↓reduceIte, Nat.add_zero]

theorem seekPast_eq (ordered : s.WindowInOrder) (set : LetterSet) (direction : Direction)
    (membership : Membership) :
    seekPast set direction membership s =
      .returned ((s.ahead direction).any (set.accepts membership))
        (s.advance direction ((s.ahead direction).findIdx (set.accepts membership) +
          if (s.ahead direction).any (set.accepts membership) then 1 else 0)) := by
  simp only [seekPast, ordered.room?_eq direction, Option.getD_some,
    seekFor_eq set direction membership true _ ordered (Nat.le_refl _), Bool.true_and]

end Scan

end Stemming
