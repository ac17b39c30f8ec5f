import Stemming.Proofs.Routine.Keeping

set_option autoImplicit false

namespace Stemming

variable {ρ : Type}

/-- Entries that match the letters from `near` on are asked for their conditions in turn, and each
is rejected. The states are those before the first and after the last. -/
inductive RejectedInTurn (direction : Direction) (near : Nat) :
    List (Entry Scan ρ) → ScanState → ScanState → Prop where
  | none {s : ScanState} : RejectedInTurn direction near [] s s
  | rejected {entry : Entry Scan ρ} {others : List (Entry Scan ρ)} {s held last : ScanState}
      (asked : entry.holds { s with cursor := farEnd direction near entry.length } =
        .returned false held)
      (rest : RejectedInTurn direction near others held last) :
      RejectedInTurn direction near (entry :: others) s last

variable {direction : Direction} {near : Nat} {entries : List (Entry Scan ρ)}
  {s after last : ScanState}

theorem tryInTurn_withCursor (entries : List (Entry Scan ρ)) (s : ScanState) (cursor : Nat) :
    tryInTurn direction near entries { s with cursor := cursor } =
      tryInTurn direction near entries s := by
  cases entries with
  | nil => rfl
  | cons entry others => rfl

theorem tryInTurn_of_rejectedInTurn (rejected : RejectedInTurn direction near entries s last) :
    tryInTurn direction near entries s = .returned none { last with cursor := near } := by
  induction rejected with
  | none => rfl
  | rejected asked rest ih => rw [tryInTurn_of_rejected asked, tryInTurn_withCursor, ih]

theorem exists_rejectedInTurn
    (missed : tryInTurn direction near entries s = .returned none after) :
    ∃ last, RejectedInTurn direction near entries s last ∧
      after = { last with cursor := near } := by
  induction entries generalizing s with
  | nil =>
      cases missed
      exact ⟨s, .none, rfl⟩
  | cons entry others ih =>
      obtain ⟨accepted, held, asked⟩ := exists_asked_of_returned missed
      cases accepted with
      | true =>
          rw [tryInTurn_of_accepted asked] at missed
          cases missed
      | false =>
          rw [tryInTurn_of_rejected asked, tryInTurn_withCursor] at missed
          obtain ⟨last, rejected, same⟩ := ih missed
          exact ⟨last, .rejected asked rejected, same⟩

/-- Conditions that change no more than the cursor and the slice have together changed no more. -/
theorem RejectedInTurn.repointed (rejected : RejectedInTurn direction near entries s last)
    (repoint : ∀ entry ∈ entries, Scan.Keeps ScanState.Repointed entry.holds) :
    s.Repointed last := by
  induction rejected with
  | none => exact refl_of ScanState.Repointed _
  | @rejected entry others s held last asked rest ih =>
      have moved : s.Repointed { s with cursor := farEnd direction near entry.length } :=
        ⟨_, s.sliceStart, s.sliceEnd, rfl⟩
      have answered := (repoint entry List.mem_cons_self).related (congrArg Outcome.state? asked)
      have others := ih fun other member => repoint other (List.mem_cons_of_mem entry member)
      exact trans_of ScanState.Repointed moved (trans_of ScanState.Repointed answered others)

namespace RuleTable

variable {table : RuleTable Scan ρ}

theorem ConditionsRepoint.holds (repoint : table.ConditionsRepoint) {entry : Entry Scan ρ}
    (member : entry ∈ table) : Scan.Keeps ScanState.Repointed entry.holds := by
  rw [Entry.holds]
  cases conditional : entry.condition with
  | none => exact Scan.keeps_pure true
  | some condition => exact repoint entry member condition conditional

theorem ConditionsRepoint.only_slice (repoint : table.ConditionsRepoint) {text : List Char}
    (rejected : RejectedInTurn direction s.cursor (table.matching direction text) s last) :
    ({ last with cursor := s.cursor } : ScanState) =
      { s with sliceStart := last.sliceStart, sliceEnd := last.sliceEnd } := by
  obtain ⟨cursor, sliceStart, sliceEnd, rfl⟩ :=
    rejected.repointed fun entry member => repoint.holds (mem_matching.mp member).1
  rfl

/-- In a table that passes its check, with conditions that change no more than the cursor and the
slice, a search gives nothing just if each entry with which the text ahead begins is rejected in
turn. Then nothing is different but the slice, which is as the last condition has left it; so the
state is what it was just if the slice is. -/
theorem find_misses_iff (table : RuleTable Scan ρ) (direction : Direction)
    (passed : table.violation? direction = none) (repoint : table.ConditionsRepoint)
    (ordered : s.WindowInOrder) :
    (table.find direction s = .returned none after ↔
      ∃ last, RejectedInTurn direction s.cursor (table.matching direction (s.ahead direction))
          s last ∧
        after = { s with sliceStart := last.sliceStart, sliceEnd := last.sliceEnd }) ∧
    (table.find direction s = .returned none after →
      (after = s ↔ after.sliceStart = s.sliceStart ∧ after.sliceEnd = s.sliceEnd)) := by
  have sound := sound_of_violation?_eq_none passed
  have missed : table.find direction s = .returned none after ↔
      ∃ last, RejectedInTurn direction s.cursor (table.matching direction (s.ahead direction))
          s last ∧
        after = { s with sliceStart := last.sliceStart, sliceEnd := last.sliceEnd } := by
    rw [sound.find_eq ordered]
    constructor
    · intro missed
      obtain ⟨last, rejected, rfl⟩ := exists_rejectedInTurn missed
      exact ⟨last, rejected, repoint.only_slice rejected⟩
    · rintro ⟨last, rejected, rfl⟩
      rw [tryInTurn_of_rejectedInTurn rejected, repoint.only_slice rejected]
  refine ⟨missed, ?_⟩
  intro ran
  obtain ⟨last, _, rfl⟩ := missed.mp ran
  constructor
  · intro same
    rw [same]
    exact ⟨rfl, rfl⟩
  · rintro ⟨start, stop⟩
    have startSame : last.sliceStart = s.sliceStart := start
    have stopSame : last.sliceEnd = s.sliceEnd := stop
    rw [startSame, stopSame]

/-- Two entries that are never accepted. The condition of the longer one looks for `x` in a table of
its own, and that of the shorter one hops over a letter. -/
def rejecting : RuleTable Scan Nat :=
  [⟨['s'], none, 0, some (do let _ ← Scan.hop .backward 1; return false)⟩,
    ⟨['e', 's'], some 0, 1, some (do
      let found ← RuleTable.find ([.plain "x" none 0] : RuleTable Scan Nat) .backward
      return found.isSome)⟩]

/-- A word that ends in both entries. The conditions move the cursor, and the state is what it
was. -/
theorem find_misses_iff_hes :
    rejecting.violation? .backward = none ∧ rejecting.ConditionsRepoint ∧
      ∃ last, RejectedInTurn .backward 3 (rejecting.matching .backward ['s', 'e', 'h'])
          ⟨['h', 'e', 's'], 3, 0, 3, 0, 3, [], .backward⟩ last ∧
        last.sliceStart = 0 ∧ last.sliceEnd = 3 := by
  have plain : RuleTable.ConditionsRepoint ([.plain "x" none 0] : RuleTable Scan Nat) := by
    intro entry member condition conditional
    rw [List.mem_singleton.mp member] at conditional
    cases conditional
  have repoint : rejecting.ConditionsRepoint := by
    intro entry member condition conditional
    simp only [rejecting, List.mem_cons, List.not_mem_nil, or_false] at member
    rcases member with rfl | rfl
    · cases conditional
      exact ((Scan.hop_moves .backward 1).mono ScanState.Moved.repointed).bind
        fun _ => Scan.keeps_pure false
    · cases conditional
      exact (find_repoints plain .backward).bind fun found => Scan.keeps_pure found.isSome
  have ran : rejecting.find .backward ⟨['h', 'e', 's'], 3, 0, 3, 0, 3, [], .backward⟩ =
      .returned none ⟨['h', 'e', 's'], 3, 0, 3, 0, 3, [], .backward⟩ := rfl
  obtain ⟨last, rejected, same⟩ :=
    (find_misses_iff rejecting .backward (by decide) repoint (by decide)).1.mp ran
  exact ⟨by decide, repoint, last, rejected, (congrArg ScanState.sliceStart same).symm,
    (congrArg ScanState.sliceEnd same).symm⟩

/-- An entry that is never accepted and starts the slice before its match. -/
def slicing : RuleTable Scan Nat :=
  [⟨['s'], none, 0, some (do Scan.startSlice; return false)⟩]

/-- There is no match, and the slice is not what it was. -/
theorem find_misses_slice_hes :
    slicing.violation? .backward = none ∧ slicing.ConditionsRepoint ∧
      ScanState.WindowInOrder ⟨['h', 'e', 's'], 3, 0, 3, 0, 3, [], .backward⟩ ∧
      slicing.find .backward ⟨['h', 'e', 's'], 3, 0, 3, 0, 3, [], .backward⟩ =
        .returned none ⟨['h', 'e', 's'], 3, 0, 3, 2, 3, [], .backward⟩ := by
  refine ⟨by decide, ?_, by decide, rfl⟩
  intro entry member condition conditional
  rw [List.mem_singleton.mp member] at conditional
  cases conditional
  apply Scan.Keeps.bind
  · exact Scan.keeps_update fun s => ⟨s.cursor, s.cursor, s.sliceEnd, rfl⟩
  · intro _
    exact Scan.keeps_pure false

end RuleTable

end Stemming
