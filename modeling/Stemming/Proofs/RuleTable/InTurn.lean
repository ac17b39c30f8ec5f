import Stemming.RuleTable.Find

set_option autoImplicit false

namespace Stemming

variable {ρ : Type}

/-- The position at which a match of `count` letters from `near` on ends. -/
def farEnd : Direction → Nat → Nat → Nat
  | .forward, near, count => near + count
  | .backward, near, count => near - count

/-- The state with the cursor at the end of a match from `near` to `far`, and the slice on it. -/
def ScanState.covering (s : ScanState) (direction : Direction) (near far : Nat) : ScanState :=
  match direction with
  | .forward => { s with cursor := far, sliceStart := near, sliceEnd := far }
  | .backward => { s with cursor := far, sliceStart := far, sliceEnd := near }

/-- Whether a matched entry is accepted, with the cursor at the end of the match. -/
def Entry.holds (entry : Entry Scan ρ) : Scan Bool :=
  entry.condition.getD (pure true)

/-- Tries entries that match the letters from `near` on, in the order given. Each is asked with the
cursor at the end of its match, in the state that the ones before it have left. The first that is
accepted is taken: the slice covers it and the cursor is past it. If none is, the cursor goes back
to `near`. -/
def tryInTurn (direction : Direction) (near : Nat) : List (Entry Scan ρ) → Scan (Option ρ)
  | [] => fun s => .returned none { s with cursor := near }
  | entry :: others => fun s =>
    let far := farEnd direction near entry.length
    match entry.holds { s with cursor := far } with
    | .returned true held => .returned (some entry.result) (held.covering direction near far)
    | .returned false held => tryInTurn direction near others { held with cursor := far }
    | .faulted violation held => .faulted violation held
    | .trapped trap => .trapped trap

/-- An entry that fits before the cursor is tried by asking it at the end of its match. -/
theorem Entry.take_apply (entry : Entry Scan ρ) (direction : Direction) (near : Nat)
    (fits : direction = .backward → entry.length ≤ near) (s : ScanState) :
    (entry.take direction near : Scan Bool) s =
      match entry.holds { s with cursor := farEnd direction near entry.length } with
      | .returned true held =>
        .returned true (held.covering direction near (farEnd direction near entry.length))
      | .returned false held =>
        .returned false { held with cursor := farEnd direction near entry.length }
      | .faulted violation held => .faulted violation held
      | .trapped trap => .trapped trap := by
  have ends : (Scan.matchEnd direction near entry.length) =
      pure (farEnd direction near entry.length) := by
    cases direction with
    | forward => rfl
    | backward => exact if_pos (fits rfl)
  rw [take]
  change (Scan.matchEnd direction near entry.length >>= _) s = _
  rw [ends, pure_bind, Entry.holds]
  cases entry.condition with
  | none => cases direction <;> rfl
  | some condition =>
      change (do
        let accepted ← condition
        Scan.placeCursor (farEnd direction near entry.length)
        if accepted then Scan.coverMatch direction near (farEnd direction near entry.length)
        return accepted : Scan Bool) { s with cursor := farEnd direction near entry.length } = _
      rw [Option.getD_some, Scan.bind_apply]
      cases condition { s with cursor := farEnd direction near entry.length } with
      | returned accepted held => cases accepted <;> cases direction <;> rfl
      | faulted violation held => rfl
      | trapped trap => rfl

variable {direction : Direction} {near : Nat} {entry : Entry Scan ρ} {s held : ScanState}

theorem tryInTurn_of_accepted
    (asked : entry.holds { s with cursor := farEnd direction near entry.length } =
      .returned true held) (others : List (Entry Scan ρ)) :
    tryInTurn direction near (entry :: others) s =
      .returned (some entry.result)
        (held.covering direction near (farEnd direction near entry.length)) := by
  simp only [tryInTurn, asked]

theorem tryInTurn_of_rejected
    (asked : entry.holds { s with cursor := farEnd direction near entry.length } =
      .returned false held) (others : List (Entry Scan ρ)) :
    tryInTurn direction near (entry :: others) s =
      tryInTurn direction near others
        { held with cursor := farEnd direction near entry.length } := by
  simp only [tryInTurn, asked]

theorem tryInTurn_cons (direction : Direction) (near : Nat) (entry : Entry Scan ρ)
    (others : List (Entry Scan ρ)) (fits : direction = .backward → entry.length ≤ near) :
    tryInTurn direction near (entry :: others) = (do
      let taken ← (entry.take direction near : Scan Bool)
      if taken then return some entry.result else tryInTurn direction near others) := by
  funext s
  simp only [Scan.bind_apply, entry.take_apply direction near fits, tryInTurn]
  cases entry.holds { s with cursor := farEnd direction near entry.length } with
  | returned accepted held => cases accepted <;> rfl
  | faulted violation held => rfl
  | trapped trap => rfl

theorem exists_asked_of_returned {others : List (Entry Scan ρ)} {s after : ScanState}
    {answer : Option ρ}
    (ran : tryInTurn direction near (entry :: others) s = .returned answer after) :
    ∃ accepted held, entry.holds { s with cursor := farEnd direction near entry.length } =
      .returned accepted held := by
  cases asked : entry.holds { s with cursor := farEnd direction near entry.length } with
  | returned accepted held => exact ⟨accepted, held, rfl⟩
  | faulted violation held =>
      simp only [tryInTurn, asked] at ran
      cases ran
  | trapped trap =>
      simp only [tryInTurn, asked] at ran
      cases ran

/-- Nothing that stands after the accepted entry is looked at. -/
theorem tryInTurn_accepted (entries : List (Entry Scan ρ)) {s after : ScanState} {value : ρ}
    (found : tryInTurn direction near entries s = .returned (some value) after) :
    ∃ rejected accepted rest, entries = rejected ++ accepted :: rest ∧ accepted.result = value ∧
      ∀ others, tryInTurn direction near (rejected ++ accepted :: others) s =
        .returned (some value) after := by
  induction entries generalizing s with
  | nil => cases found
  | cons entry rest ih =>
      obtain ⟨accepted, held, asked⟩ := exists_asked_of_returned found
      cases accepted with
      | true =>
          have same := (tryInTurn_of_accepted asked rest).symm.trans found
          injection same with value after
          subst after
          refine ⟨[], entry, rest, rfl, Option.some.inj value, ?_⟩
          intro others
          rw [← value]
          exact tryInTurn_of_accepted asked others
      | false =>
          rw [tryInTurn_of_rejected asked rest] at found
          obtain ⟨rejected, accepted, others, rfl, result, ignored⟩ := ih found
          refine ⟨entry :: rejected, accepted, others, rfl, result, ?_⟩
          intro others
          rw [List.cons_append, tryInTurn_of_rejected asked]
          exact ignored others

theorem tryInTurn_of_plain (entries : List (Entry Scan ρ)) (s : ScanState)
    (plain : ∀ entry ∈ entries, entry.condition = none) :
    tryInTurn direction s.cursor entries s =
      match entries.head? with
      | none => .returned none s
      | some entry => .returned (some entry.result)
          (s.covering direction s.cursor (farEnd direction s.cursor entry.length)) := by
  cases entries with
  | nil => rfl
  | cons entry others =>
      have asked : entry.holds { s with cursor := farEnd direction s.cursor entry.length } =
          .returned true { s with cursor := farEnd direction s.cursor entry.length } := by
        rw [Entry.holds, plain entry List.mem_cons_self]
        rfl
      rw [tryInTurn_of_accepted asked]
      cases direction <;> rfl

end Stemming
