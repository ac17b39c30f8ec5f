import Stemming.Proofs.RuleTable.LongestMatch
import Stemming.Proofs.Routine.Edits
import Stemming.Proofs.Scan.Moves
import Stemming.Proofs.Scan.Region

set_option autoImplicit false

namespace Stemming

namespace ScanState

/-- Nothing but the cursor is different. -/
def Moved (s after : ScanState) : Prop :=
  ∃ cursor, after = { s with cursor := cursor }

/-- Nothing but the cursor and the slice is different. -/
def Repointed (s after : ScanState) : Prop :=
  ∃ cursor sliceStart sliceEnd,
    after = { s with cursor := cursor, sliceStart := sliceStart, sliceEnd := sliceEnd }

variable {s : ScanState}

theorem moved_advance (direction : Direction) (count : Nat) :
    s.Moved (s.advance direction count) := by
  cases direction with
  | forward => exact ⟨s.cursor + count, rfl⟩
  | backward => exact ⟨s.cursor - count, rfl⟩

theorem repointed_covering (direction : Direction) (near far : Nat) :
    s.Repointed (s.covering direction near far) := by
  cases direction with
  | forward => exact ⟨far, near, far, rfl⟩
  | backward => exact ⟨far, far, near, rfl⟩

theorem Spans.covering_slice {direction : Direction} {near far count : Nat}
    (spans : s.Spans direction near far count) :
    (s.covering direction near far).sliceStart ≤ s.windowEnd ∧
      (s.covering direction near far).sliceEnd ≤ s.windowEnd := by
  have near_le := Nat.le_trans (Nat.le_max_left near far) spans.le_end
  have far_le := Nat.le_trans (Nat.le_max_right near far) spans.le_end
  cases direction with
  | forward => exact ⟨near_le, far_le⟩
  | backward => exact ⟨far_le, near_le⟩

end ScanState

/-- How an action may end that started from `s`: it never traps; if it has failed, with an answer
that `denies` or with a violation, the state is still `s`; otherwise the state has `frame`, and its
window is in order. -/
def Outcome.Framed {α : Type} (s : ScanState) (denies : α → Prop) (frame : ScanState → Prop) :
    Outcome α → Prop
  | .returned answer after =>
    (denies answer → after = s) ∧ (¬ denies answer → frame after ∧ after.WindowInOrder)
  | .faulted _ after => after = s
  | .trapped _ => False

theorem Outcome.Framed.mono {α : Type} {s : ScanState} {denies : α → Prop}
    {frame wider : ScanState → Prop} {outcome : Outcome α} (framed : outcome.Framed s denies frame)
    (implies : ∀ after, frame after → wider after) : outcome.Framed s denies wider := by
  cases outcome with
  | returned answer after =>
      exact ⟨framed.1, fun accepts => ⟨implies after (framed.2 accepts).1, (framed.2 accepts).2⟩⟩
  | faulted violation after => exact framed
  | trapped trap => exact framed

namespace Operation

variable {markCount : Nat}

/-- The operation does no more than move the cursor. -/
def MovesCursor {β : Type} : Operation markCount β → Prop
  | .setCursor _ | .restoreCursor _ | .hop _ _ | .step _ | .literal _ _ | .test _ _ _
  | .seek _ _ _ | .seekPast _ _ _ => True
  | _ => False

/-- The answer of the operation says that it has failed. -/
def Denies : {β : Type} → Operation markCount β → β → Prop
  | _, .hop _ _, answer | _, .step _, answer | _, .literal _ _, answer | _, .test _ _ _, answer =>
    answer = false
  | _, .narrow _ _, answer => answer = none
  | _, .find _ _ _ _, answer => answer = none
  | _, _, _ => False

/-- What may be different after the operation if it has not failed. -/
def Frame : {β : Type} → Operation markCount β → ScanState → ScanState → Prop
  | _, .setCursor _, s, after | _, .restoreCursor _, s, after | _, .hop _ _, s, after
  | _, .step _, s, after | _, .literal _ _, s, after | _, .test _ _ _, s, after
  | _, .seek _ _ _, s, after | _, .seekPast _ _ _, s, after => s.Moved after
  | _, .look, s, after | _, .saveCursor, s, after => after = s
  | _, .enterBackward, s, after | _, .leaveBackward, s, after =>
    ∃ windowStart cursor mode, s.windowStart ≤ windowStart ∧
      after = { s with windowStart := windowStart, cursor := cursor, mode := mode }
  | _, .startSlice, s, after => after = { s with sliceStart := s.cursor }
  | _, .endSlice, s, after => after = { s with sliceEnd := s.cursor }
  | _, .setMark mark value, s, after =>
    value ≤ s.length ∧ after = { s with marks := s.marks.set mark value }
  | _, .narrow _ direction, s, after =>
    ∃ position, s.Reaches direction position ∧ after = s.withBound direction position
  | _, .find _ _ _ _, s, after =>
    s.Repointed after ∧ after.sliceStart ≤ s.windowEnd ∧ after.sliceEnd ≤ s.windowEnd

end Operation

namespace Scan

variable {s : ScanState} (ordered : s.WindowInOrder)

include ordered

theorem setCursor_framed (position : Nat) :
    (setCursor position s).Framed s (fun _ => False) s.Moved := by
  unfold setCursor
  split
  · rfl
  · have placed : ({ s with cursor := position } : ScanState).WindowInOrder :=
      ⟨by dsimp only; omega, by dsimp only; omega, ordered.end_le_length⟩
    exact ⟨False.elim, fun _ => ⟨⟨position, rfl⟩, placed⟩⟩

theorem restoreCursor_framed (saved : SavedCursor) :
    (restoreCursor saved s).Framed s (fun _ => False) s.Moved := by
  cases saved with
  | fromStart position => exact setCursor_framed ordered position
  | fromEnd distance =>
      simp only [restoreCursor]
      split
      · exact setCursor_framed ordered _
      · rfl

theorem saveCursor_eq : ∃ saved, saveCursor s = .returned saved s := by
  unfold saveCursor
  cases s.mode with
  | forward => exact ⟨_, rfl⟩
  | backward =>
      rw [ordered.room?_eq .forward]
      exact ⟨_, rfl⟩

theorem setMark_framed {mark : Mark} (known : mark.index < s.marks.length) (value : Nat) :
    (setMark mark value s).Framed s (fun _ => False) fun after =>
      value ≤ s.length ∧ after = { s with marks := s.marks.set mark.index value } := by
  by_cases inWord : value ≤ s.length
  · rw [setMark_eq inWord known]
    exact ⟨False.elim, fun _ => ⟨⟨inWord, rfl⟩, ordered.start_le_cursor, ordered.cursor_le_end,
      ordered.end_le_length⟩⟩
  · rw [setMark, if_pos (Nat.lt_of_not_le inWord)]
    rfl

variable (direction : Direction)

theorem narrow_framed {mark : Mark} (known : mark.index < s.marks.length) :
    (narrow mark direction s).Framed s (· = none) fun after =>
      ∃ position, s.Reaches direction position ∧ after = s.withBound direction position := by
  have found : s.marks[mark.index]? = some s.marks[mark.index] := List.getElem?_eq_getElem known
  by_cases reaches : s.Reaches direction s.marks[mark.index]
  · rw [narrow_of_reaches found reaches]
    exact ⟨nofun, fun _ => ⟨⟨_, reaches, rfl⟩, ordered.withBound reaches⟩⟩
  · rw [narrow_of_not_reaches found reaches]
    exact ⟨fun _ => rfl, fun accepts => absurd rfl accepts⟩

theorem advance_framed {β : Type} {denies : β → Prop} {count : Nat} (answer : β)
    (accepts : ¬ denies answer) (room : count ≤ (s.ahead direction).length) :
    (Outcome.returned answer (s.advance direction count)).Framed s denies s.Moved :=
  ⟨fun denied => absurd denied accepts,
    fun _ => ⟨ScanState.moved_advance direction count, ordered.advance direction room⟩⟩

/-- A test goes over the letters that it has met, or says no and stays. -/
theorem advance_or_stay_framed {met : Prop} [Decidable met] {count : Nat}
    (room : met → count ≤ (s.ahead direction).length) :
    (if met then .returned true (s.advance direction count)
      else .returned false s : Outcome Bool).Framed s (· = false) s.Moved := by
  split
  · next found => exact advance_framed ordered direction true (by decide) (room found)
  · exact ⟨fun _ => rfl, fun accepts => absurd rfl accepts⟩

theorem hop_framed (count : Nat) : (hop direction count s).Framed s (· = false) s.Moved := by
  rw [hop_eq ordered]
  exact advance_or_stay_framed ordered direction id

theorem literal_framed (text : List Char) :
    (literal direction text s).Framed s (· = false) s.Moved := by
  rw [literal_eq ordered]
  apply advance_or_stay_framed ordered direction
  intro begins
  have room := begins.length_le
  rw [Direction.length_reading] at room
  exact room

variable (set : LetterSet) (membership : Membership)

theorem test_framed : (test set direction membership s).Framed s (· = false) s.Moved := by
  rw [test_eq ordered]
  exact advance_or_stay_framed ordered direction (one_le_length_of_any_head? _ _)

theorem seek_framed : (seek set direction membership s).Framed s (fun _ => False) s.Moved := by
  rw [seek_eq ordered]
  exact advance_framed ordered direction _ id List.findIdx_le_length

theorem seekPast_framed :
    (seekPast set direction membership s).Framed s (fun _ => False) s.Moved := by
  rw [seekPast_eq ordered]
  exact advance_framed ordered direction _ id (findIdx_past_le_length _ _)

end Scan

section

variable {s : ScanState}

theorem RuleTable.Linked.find_framed {ρ : Type} {table : RuleTable Scan ρ}
    (linked : table.Linked) (plain : ∀ entry ∈ table, entry.condition = none)
    (ordered : s.WindowInOrder) (direction : Direction) :
    (table.find direction s).Framed s (· = none) fun after =>
      s.Repointed after ∧ after.sliceStart ≤ s.windowEnd ∧ after.sliceEnd ≤ s.windowEnd := by
  by_cases nonempty : 0 < table.length
  · obtain ⟨found, entries, _, _, unmatched, matched⟩ :=
      linked.find_of_plain direction ordered plain nonempty
    cases first : entries.find? fun entry => entry.length ≤ found.shared with
    | none =>
        rw [unmatched first]
        exact ⟨fun _ => rfl, fun accepts => absurd rfl accepts⟩
    | some entry =>
        obtain ⟨far, spans, ran⟩ := matched entry first
        rw [ran]
        exact ⟨nofun, fun _ => ⟨⟨ScanState.repointed_covering direction _ far,
          spans.covering_slice⟩, spans.covering_inOrder ordered⟩⟩
  · have empty : table = [] := List.eq_nil_of_length_eq_zero (by omega)
    subst empty
    exact ⟨fun _ => rfl, fun accepts => absurd rfl accepts⟩

theorem Operation.MovesCursor.framed {markCount : Nat} {β : Type}
    {operation : Operation markCount β} (moves : operation.MovesCursor)
    (ordered : s.WindowInOrder) :
    (operation.action s).Framed s operation.Denies s.Moved := by
  cases operation with
  | setCursor position => exact Scan.setCursor_framed ordered position
  | restoreCursor saved => exact Scan.restoreCursor_framed ordered saved
  | hop direction count => exact Scan.hop_framed ordered direction count
  | step direction => exact Scan.hop_framed ordered direction 1
  | literal direction text => exact Scan.literal_framed ordered direction text
  | test set direction membership => exact Scan.test_framed ordered direction set membership
  | seek set direction membership => exact Scan.seek_framed ordered direction set membership
  | seekPast set direction membership => exact Scan.seekPast_framed ordered direction set membership
  | _ => exact absurd moves id

/-- Every operation without edits keeps to its frame. -/
theorem Operation.framed {markCount : Nat} {β : Type} (operation : Operation markCount β)
    (ordered : s.WindowInOrder) (marked : s.marks.length = markCount) :
    (operation.action s).Framed s operation.Denies (operation.Frame s) := by
  have above := ordered.start_le_cursor
  have below := ordered.cursor_le_end
  have fits := ordered.end_le_length
  have known (mark : Fin markCount) : mark.val < s.marks.length := by
    rw [marked]
    exact mark.isLt
  cases operation with
  | setCursor | restoreCursor | hop | step | literal | test | seek | seekPast =>
      exact Operation.MovesCursor.framed trivial ordered
  | look => exact ⟨False.elim, fun _ => ⟨rfl, ordered⟩⟩
  | saveCursor =>
      obtain ⟨saved, kept⟩ := Scan.saveCursor_eq ordered
      simp only [action, kept]
      exact ⟨False.elim, fun _ => ⟨rfl, ordered⟩⟩
  | enterBackward =>
      exact ⟨False.elim, fun _ => ⟨⟨_, _, _, above, rfl⟩, below, Nat.le_refl _, fits⟩⟩
  | leaveBackward =>
      exact ⟨False.elim, fun _ => ⟨⟨_, _, _, Nat.le_refl _, rfl⟩, Nat.le_refl _,
        Nat.le_trans above below, fits⟩⟩
  | startSlice => exact ⟨False.elim, fun _ => ⟨rfl, above, below, fits⟩⟩
  | endSlice => exact ⟨False.elim, fun _ => ⟨rfl, above, below, fits⟩⟩
  | setMark mark value => exact Scan.setMark_framed ordered (known mark) value
  | narrow mark direction => exact Scan.narrow_framed ordered direction (known mark)
  | find table direction plain linked => exact linked.find_framed plain ordered direction

theorem Edit.framed (edit : Edit) (ordered : s.WindowInOrder) :
    (edit.action s).Framed s (fun _ => False) fun after =>
      edit.Fits s ∧ after = s.replaced (edit.start s) (edit.stop s) edit.text := by
  by_cases fits : edit.Fits s
  · rw [Edit.action_of_fits fits]
    exact ⟨False.elim, fun _ => ⟨⟨fits, rfl⟩, ordered.replaced edit.text fits.spans.1 fits.spans.2⟩⟩
  · rw [Edit.action_of_not_fits fits]
    rfl

theorem Scan.sliceText_framed (ordered : s.WindowInOrder) :
    (Scan.sliceText s).Framed s (fun _ => False) (· = s) := by
  unfold Scan.sliceText
  split
  · exact ⟨False.elim, fun _ => ⟨rfl, ordered⟩⟩
  · rfl

/-- In a window that is in order, any operation, any edit and any look at the slice that fails
leaves the state as it was. One that does not fail changes no more than what it is for, and the
window is still in order: a scan changes the cursor, a search of a table without side conditions
that passes its check the cursor and the slice, a narrowing the end of the window in its
direction. -/
theorem failures_change_nothing (ordered : s.WindowInOrder) :
    (∀ {β : Type} (operation : Operation s.marks.length β),
      (operation.action s).Framed s operation.Denies (operation.Frame s)) ∧
    (∀ {ρ : Type} (table : RuleTable Scan ρ) (direction : Direction),
      table.violation? direction = none → (∀ entry ∈ table, entry.condition = none) →
      (table.find direction s).Framed s (· = none) s.Repointed) ∧
    (∀ edit : Edit, (edit.action s).Framed s (fun _ => False) fun after =>
      edit.Fits s ∧ after = s.replaced (edit.start s) (edit.stop s) edit.text) ∧
    (Scan.sliceText s).Framed s (fun _ => False) (· = s) := by
  refine ⟨fun operation => operation.framed ordered rfl, ?_, fun edit => edit.framed ordered,
    Scan.sliceText_framed ordered⟩
  intro ρ table direction passed plain
  have linked := (RuleTable.sound_of_violation?_eq_none passed).linked
  exact (linked.find_framed plain ordered direction).mono fun after frame => frame.1

/-- On `heste`, a hop that is too far and a search that finds `he`. -/
theorem failures_change_nothing_heste :
    (Scan.hop .forward 6 (.ofWord ['h', 'e', 's', 't', 'e'] 0)).Framed
      (.ofWord ['h', 'e', 's', 't', 'e'] 0) (· = false)
      (ScanState.Moved (.ofWord ['h', 'e', 's', 't', 'e'] 0)) ∧
    (RuleTable.find ([.plain "h" none 0, .plain "he" (some 0) 1] : RuleTable Scan Nat) .forward
      (.ofWord ['h', 'e', 's', 't', 'e'] 0)).Framed
      (.ofWord ['h', 'e', 's', 't', 'e'] 0) (· = none)
      (ScanState.Repointed (.ofWord ['h', 'e', 's', 't', 'e'] 0)) := by
  have ordered := (ScanState.wellFormed_ofWord ['h', 'e', 's', 't', 'e'] 0).toWindowInOrder
  have plain : ∀ entry ∈ ([.plain "h" none 0, .plain "he" (some 0) 1] : RuleTable Scan Nat),
      entry.condition = none := by
    intro entry member
    simp only [List.mem_cons, List.not_mem_nil, or_false] at member
    rcases member with rfl | rfl <;> rfl
  obtain ⟨operations, tables, -, -⟩ := failures_change_nothing ordered
  exact ⟨operations (.hop .forward 6), tables _ .forward (by decide) plain⟩

end

end Stemming
