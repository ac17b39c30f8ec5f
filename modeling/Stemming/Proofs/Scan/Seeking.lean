import Stemming.Proofs.Scan.Moves
import Stemming.Scan.Region

set_option autoImplicit false

namespace Stemming

theorem exists_nearest {α : Type} {accepts : α → Bool} {text : List α}
    (present : text.any accepts = true) :
    ∃ skipped item rest, text = skipped ++ item :: rest ∧
      (∀ other ∈ skipped, accepts other = false) ∧ accepts item = true ∧
      text.findIdx accepts = skipped.length := by
  obtain ⟨item, found⟩ := Option.isSome_iff_exists.mp (List.find?_isSome.mpr
    (List.any_eq_true.mp present))
  obtain ⟨accepted, skipped, rest, rfl, refused⟩ := List.find?_eq_some_iff_append.mp found
  have refused : ∀ other ∈ skipped, accepts other = false := by simpa using refused
  refine ⟨skipped, item, rest, rfl, refused, accepted, ?_⟩
  rw [List.findIdx_append, List.findIdx_eq_length.mpr refused, if_neg (Nat.lt_irrefl _),
    List.findIdx_cons, accepted, cond_true, Nat.zero_add]

namespace ScanState

variable {s : ScanState}

theorem WindowInOrder.advance_all (ordered : s.WindowInOrder) (direction : Direction) :
    s.advance direction (s.ahead direction).length = { s with cursor := s.bound direction } := by
  have above := ordered.start_le_cursor
  have below := ordered.cursor_le_end
  cases direction with
  | forward =>
      rw [ordered.length_ahead_forward, ScanState.advance, bound, Nat.add_sub_cancel' below]
  | backward =>
      rw [ordered.length_ahead_backward, ScanState.advance, bound, Nat.sub_sub_self above]

end ScanState

namespace Scan

variable {s : ScanState} {direction : Direction} {membership : Membership} {set : LetterSet}

/-- A scan that may make more steps than there are letters ends as one that may make just as
many. -/
theorem seekFor_of_enough (ordered : s.WindowInOrder) (past : Bool) {steps : Nat}
    (enough : (s.ahead direction).length ≤ steps) :
    seekFor set direction membership past steps s =
      seekFor set direction membership past ((s.room? direction).getD 0) s := by
  rw [ordered.room?_eq, Option.getD_some, seekFor_eq _ _ _ _ _ ordered enough,
    seekFor_eq _ _ _ _ _ ordered (Nat.le_refl _)]

theorem seek_of_absent (ordered : s.WindowInOrder)
    (absent : ∀ letter ∈ s.ahead direction, set.accepts membership letter = false) :
    seek set direction membership s = .returned false { s with cursor := s.bound direction } := by
  have none : (s.ahead direction).any (set.accepts membership) = false := by
    simpa only [List.any_eq_false, Bool.not_eq_true] using absent
  rw [seek_eq ordered, none, List.findIdx_eq_length.mpr absent, ordered.advance_all]

theorem seek_and_test_of_cons (ordered : s.WindowInOrder) {letter : Char} {rest : List Char}
    (next : s.ahead direction = letter :: rest) (accepted : set.accepts membership letter = true) :
    seek set direction membership s = .returned true s ∧
      test set direction membership s = .returned true (s.advance direction 1) := by
  constructor
  · rw [seek_eq ordered, next, List.any_cons, accepted, Bool.true_or, List.findIdx_cons, accepted,
      cond_true, ScanState.advance_zero]
  · rw [test_eq ordered, next, List.head?_cons, Option.any_some, accepted]
    rfl

theorem exists_seek_of_present (ordered : s.WindowInOrder)
    (present : (s.ahead direction).any (set.accepts membership) = true) :
    ∃ skipped letter rest, s.ahead direction = skipped ++ letter :: rest ∧
      (∀ other ∈ skipped, set.accepts membership other = false) ∧
      set.accepts membership letter = true ∧
      seek set direction membership s = .returned true (s.advance direction skipped.length) ∧
      seekPast set direction membership s =
        .returned true (s.advance direction (skipped.length + 1)) ∧
      (s.advance direction skipped.length).WindowInOrder ∧
      (s.advance direction skipped.length).ahead direction = letter :: rest := by
  obtain ⟨skipped, letter, rest, split, refused, accepted, place⟩ := exists_nearest present
  have room : skipped.length ≤ (s.ahead direction).length := by
    rw [split, List.length_append]
    exact Nat.le_add_right _ _
  refine ⟨skipped, letter, rest, split, refused, accepted, ?_, ?_,
    ordered.advance direction room, ?_⟩
  · rw [seek_eq ordered, present, place]
  · rw [seekPast_eq ordered, present, place, if_pos rfl]
  · rw [ordered.ahead_advance direction room, split, List.drop_left]

theorem seekPast_eq_bind (ordered : s.WindowInOrder) :
    seekPast set direction membership s = (do
      if ← seek set direction membership then test set direction membership
      else return false : Scan Bool) s := by
  cases present : (s.ahead direction).any (set.accepts membership) with
  | true =>
      obtain ⟨skipped, letter, rest, _, _, accepted, sought, past, inOrder, next⟩ :=
        exists_seek_of_present ordered present
      have tested := (seek_and_test_of_cons inOrder next accepted).2
      rw [ScanState.advance_advance] at tested
      rw [past, bind_of_returned sought]
      exact tested.symm
  | false =>
      have sought := seek_eq ordered set direction membership
      rw [present] at sought
      rw [seekPast_eq ordered, present, bind_of_returned sought]
      rfl

/-- A scan for a letter comes to its end, however many more steps it may make. It finds a letter
exactly if one between the cursor and the end of the window is accepted, and then stands just before
the nearest; once there, it stays there. If there is none, it stands at the end of the window. A
scan past the letter is a scan for it and, if that has found one, a test, which goes past it. -/
theorem seek_stops_before_nearest (ordered : s.WindowInOrder) (set : LetterSet)
    (direction : Direction) (membership : Membership) :
    (∀ steps, (s.ahead direction).length ≤ steps →
      seekFor set direction membership false steps s = seek set direction membership s ∧
      seekFor set direction membership true steps s = seekPast set direction membership s) ∧
    (∃ found after, seek set direction membership s = .returned found after ∧
      after.WindowInOrder ∧
      (found = true ↔ ∃ letter ∈ s.ahead direction, set.accepts membership letter = true) ∧
      (found = true → ∃ skipped letter rest, s.ahead direction = skipped ++ letter :: rest ∧
        (∀ other ∈ skipped, set.accepts membership other = false) ∧
        set.accepts membership letter = true ∧
        after = s.advance direction skipped.length ∧ after.ahead direction = letter :: rest ∧
        seek set direction membership after = .returned true after ∧
        test set direction membership after = .returned true (after.advance direction 1)) ∧
      (found = false → after = { s with cursor := s.bound direction })) ∧
    seekPast set direction membership s = (do
      if ← seek set direction membership then test set direction membership
      else return false : Scan Bool) s := by
  refine ⟨fun steps enough => ⟨seekFor_of_enough ordered false enough,
    seekFor_of_enough ordered true enough⟩, ?_, seekPast_eq_bind ordered⟩
  cases present : (s.ahead direction).any (set.accepts membership) with
  | true =>
      obtain ⟨skipped, letter, rest, split, refused, accepted, sought, _, inOrder, next⟩ :=
        exists_seek_of_present ordered present
      obtain ⟨stays, tested⟩ := seek_and_test_of_cons inOrder next accepted
      refine ⟨true, _, sought, inOrder, iff_of_true rfl (List.any_eq_true.mp present),
        fun _ => ?_, nofun⟩
      exact ⟨skipped, letter, rest, split, refused, accepted, rfl, next, stays, tested⟩
  | false =>
      have absent : ∀ letter ∈ s.ahead direction, set.accepts membership letter = false := by
        simpa only [List.any_eq_false, Bool.not_eq_true] using present
      have inOrder := ordered.advance direction (Nat.le_refl _)
      rw [ordered.advance_all] at inOrder
      refine ⟨false, _, seek_of_absent ordered absent, inOrder, iff_of_false nofun ?_, nofun,
        fun _ => rfl⟩
      rintro ⟨letter, member, accepted⟩
      rw [absent letter member] at accepted
      cases accepted

/-- A set with a table that is too short for its range. -/
def shortSet : LetterSet where
  first := 97
  last := 117
  table := [17]

/-- The nearest letter of the set is the `e`, three letters before the cursor: the `u` lies in the
range but beyond the table. The scan stays there when it is made again. -/
theorem seek_stops_before_nearest_abekurs :
    ∃ after, seek shortSet .backward .inside
        ⟨['a', 'b', 'e', 'k', 'u', 'r', 's'], 6, 1, 7, 0, 0, [], .backward⟩ =
          .returned true after ∧
      after.cursor = 3 ∧ seek shortSet .backward .inside after = .returned true after ∧
      seekPast shortSet .backward .inside
        ⟨['a', 'b', 'e', 'k', 'u', 'r', 's'], 6, 1, 7, 0, 0, [], .backward⟩ =
          .returned true (after.advance .backward 1) := by
  have ordered : ScanState.WindowInOrder
      ⟨['a', 'b', 'e', 'k', 'u', 'r', 's'], 6, 1, 7, 0, 0, [], .backward⟩ := by
    decide
  obtain ⟨_, ⟨found, after, sought, _, finds, stands, _⟩, past⟩ :=
    seek_stops_before_nearest ordered shortSet .backward .inside
  have present : found = true := finds.mpr ⟨'e', by decide, by decide⟩
  subst present
  obtain ⟨skipped, letter, rest, split, _, _, rfl, next, stays, tested⟩ := stands rfl
  rw [bind_of_returned sought] at past
  refine ⟨_, sought, ?_, stays, past.trans tested⟩
  have ended : seek shortSet .backward .inside
      ⟨['a', 'b', 'e', 'k', 'u', 'r', 's'], 6, 1, 7, 0, 0, [], .backward⟩ = .returned true
        ⟨['a', 'b', 'e', 'k', 'u', 'r', 's'], 3, 1, 7, 0, 0, [], .backward⟩ := by
    decide
  rw [ended] at sought
  rw [← (Outcome.returned.inj sought).2]

end Scan

end Stemming
