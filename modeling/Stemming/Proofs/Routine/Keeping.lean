import Mathlib.Order.Defs.Unbundled
import Stemming.Proofs.Routine.Restoring

set_option autoImplicit false

namespace Stemming

open ScanState

instance : IsPreorder ScanState Moved where
  refl s := ⟨s.cursor, rfl⟩
  trans s middle last := by
    rintro ⟨first, rfl⟩ ⟨second, rfl⟩
    exact ⟨second, rfl⟩

instance : IsPreorder ScanState Repointed where
  refl s := ⟨s.cursor, s.sliceStart, s.sliceEnd, rfl⟩
  trans s middle last := by
    rintro ⟨_, _, _, rfl⟩ ⟨cursor, sliceStart, sliceEnd, rfl⟩
    exact ⟨cursor, sliceStart, sliceEnd, rfl⟩

theorem ScanState.Moved.repointed {s after : ScanState} (moved : s.Moved after) :
    s.Repointed after := by
  obtain ⟨cursor, rfl⟩ := moved
  exact ⟨cursor, s.sliceStart, s.sliceEnd, rfl⟩

/-- Whatever state an action leaves, be it with a violation, is related to the state before. -/
structure Scan.Keeps {α : Type} (relation : ScanState → ScanState → Prop) (action : Scan α) :
    Prop where
  related : ∀ {s after : ScanState}, (action s).state? = some after → relation s after

namespace Scan

section Closure

variable {α β : Type} {relation : ScanState → ScanState → Prop}

theorem Keeps.mono {wider : ScanState → ScanState → Prop} {action : Scan α}
    (keeps : Keeps relation action) (implies : ∀ {s after}, relation s after → wider s after) :
    Keeps wider action :=
  ⟨fun left => implies (keeps.related left)⟩

theorem keeps_update {change : ScanState → ScanState} (changes : ∀ s, relation s (change s)) :
    Keeps relation (update change) := by
  constructor
  intro s after left
  cases left
  exact changes s

theorem keeps_trap (why : Trap) : Keeps relation (trap why : Scan α) := by
  constructor
  intro s after left
  cases left

theorem Keeps.ite {condition : Prop} [Decidable condition] {first second : Scan α}
    (keeps : Keeps relation first) (otherKeeps : Keeps relation second) :
    Keeps relation (if condition then first else second) := by
  split
  · exact keeps
  · exact otherKeeps

variable [IsPreorder ScanState relation]

theorem keeps_pure (value : α) : Keeps relation (pure value : Scan α) := by
  constructor
  intro s after left
  cases left
  exact refl_of relation s

theorem Keeps.bind {first : Scan α} {next : α → Scan β} (keeps : Keeps relation first)
    (nextKeeps : ∀ value, Keeps relation (next value)) : Keeps relation (first >>= next) := by
  constructor
  intro s after left
  rw [bind_apply] at left
  cases ran : first s with
  | returned value middle =>
      rw [ran] at left
      have started : relation s middle := keeps.related (by rw [ran]; rfl)
      exact trans_of relation started ((nextKeeps value).related left)
  | faulted violation middle =>
      rw [ran] at left
      cases left
      exact keeps.related (by rw [ran]; rfl)
  | trapped trap =>
      rw [ran] at left
      cases left

theorem Keeps.ite_bind {condition : Prop} [Decidable condition] {first second : Scan α}
    {next : α → Scan β} (keeps : Keeps relation first) (otherKeeps : Keeps relation second)
    (nextKeeps : ∀ value, Keeps relation (next value)) :
    Keeps relation (if condition then first >>= next else second >>= next) :=
  (keeps.bind nextKeeps).ite (otherKeeps.bind nextKeeps)

theorem keeps_peek (direction : Direction) : Keeps relation (peek direction) := by
  have letter (s after : ScanState) (position : Nat)
      (left : ((some <$> letterAt position) s).state? = some after) : relation s after := by
    rw [map_apply, letterAt] at left
    cases found : s.letters[position]? with
    | none =>
        rw [found] at left
        cases left
    | some letter =>
        rw [found] at left
        cases left
        exact refl_of relation s
  constructor
  intro s after left
  cases direction with
  | forward =>
      simp only [peek] at left
      split at left
      · exact letter s after s.cursor left
      · cases left
        exact refl_of relation s
  | backward =>
      simp only [peek] at left
      split at left
      · exact letter s after (s.cursor - 1) left
      · cases left
        exact refl_of relation s

end Closure

section Moves

theorem setCursor_moves (position : Nat) : Keeps Moved (setCursor position) := by
  constructor
  intro s after left
  rw [setCursor] at left
  split at left
  · cases left
    exact refl_of Moved s
  · cases left
    exact ⟨position, rfl⟩

theorem restoreCursor_moves (saved : SavedCursor) : Keeps Moved (restoreCursor saved) := by
  constructor
  intro s after left
  cases saved with
  | fromStart position => exact (setCursor_moves position).related left
  | fromEnd distance =>
      simp only [restoreCursor] at left
      split at left
      · exact (setCursor_moves _).related left
      · cases left
        exact refl_of Moved s

theorem hop_moves (direction : Direction) (count : Nat) : Keeps Moved (hop direction count) := by
  constructor
  intro s after left
  rw [hop] at left
  split at left
  · cases left
  · split at left
    · cases left
      exact refl_of Moved s
    · cases left
      exact moved_advance direction count

theorem literal_moves (direction : Direction) (text : List Char) :
    Keeps Moved (literal direction text) := by
  constructor
  intro s after left
  rw [literal] at left
  split at left
  · cases left
  · split at left
    · cases left
      exact refl_of Moved s
    · split at left
      · cases left
      · split at left
        · cases left
          exact moved_advance direction text.length
        · cases left
          exact refl_of Moved s

theorem keeps_advance (direction : Direction) :
    Keeps Moved (update fun s => s.advance direction 1) :=
  keeps_update fun _ => moved_advance direction 1

theorem test_moves (set : LetterSet) (direction : Direction) (membership : Membership) :
    Keeps Moved (test set direction membership) := by
  rw [test]
  apply Keeps.bind (keeps_peek direction)
  intro found
  cases found with
  | none => exact keeps_pure false
  | some letter =>
      apply Keeps.ite
      · apply Keeps.bind (keeps_advance direction)
        intro _
        exact keeps_pure true
      · exact keeps_pure false

theorem seekOr_moves (set : LetterSet) (direction : Direction) (membership : Membership)
    (past : Bool) {next : Scan Bool} (moves : Keeps Moved next) :
    Keeps Moved (seekOr set direction membership past next) := by
  rw [seekOr]
  apply Keeps.bind (keeps_peek direction)
  intro found
  cases found with
  | none => exact keeps_pure false
  | some letter =>
      apply Keeps.ite _ moves
      cases past with
      | true => exact Keeps.bind (keeps_advance direction) fun _ => keeps_pure true
      | false => exact keeps_pure true

theorem seekFor_moves (set : LetterSet) (direction : Direction) (membership : Membership)
    (past : Bool) (fuel : Nat) : Keeps Moved (seekFor set direction membership past fuel) := by
  induction fuel with
  | zero => exact seekOr_moves set direction membership past (keeps_trap _)
  | succ fuel ih =>
      apply seekOr_moves set direction membership past
      exact Keeps.bind (keeps_advance direction) fun _ => ih

end Moves

end Scan

/-- An operation that moves the cursor moves it alone, whatever state it is in. -/
theorem Operation.MovesCursor.keeps {markCount : Nat} {β : Type}
    {operation : Operation markCount β} (moves : operation.MovesCursor) :
    Scan.Keeps Moved operation.action := by
  cases operation with
  | setCursor position => exact Scan.setCursor_moves position
  | restoreCursor saved => exact Scan.restoreCursor_moves saved
  | hop direction count => exact Scan.hop_moves direction count
  | step direction => exact Scan.hop_moves direction 1
  | literal direction text => exact Scan.literal_moves direction text
  | test set direction membership => exact Scan.test_moves set direction membership
  | seek set direction membership =>
      exact ⟨fun left => (Scan.seekFor_moves set direction membership false _).related left⟩
  | seekPast set direction membership =>
      exact ⟨fun left => (Scan.seekFor_moves set direction membership true _).related left⟩
  | _ => exact absurd moves id

namespace RuleTable

variable {ρ : Type}

/-- Every condition of the table changes no more than the cursor and the slice. -/
def ConditionsRepoint (table : RuleTable Scan ρ) : Prop :=
  ∀ entry ∈ table, ∀ condition ∈ entry.condition, Scan.Keeps Repointed condition

theorem placeCursor_repoints (position : Nat) :
    Scan.Keeps Repointed (Scan.placeCursor position) :=
  Scan.keeps_update fun s => ⟨position, s.sliceStart, s.sliceEnd, rfl⟩

theorem take_repoints {entry : Entry Scan ρ}
    (repoint : ∀ condition ∈ entry.condition, Scan.Keeps Repointed condition)
    (direction : Direction) (near : Nat) :
    Scan.Keeps Repointed (entry.take direction near : Scan Bool) := by
  have ends : Scan.Keeps Repointed (Scan.matchEnd direction near entry.length) := by
    cases direction with
    | forward => exact Scan.keeps_pure _
    | backward => exact Scan.Keeps.ite (Scan.keeps_pure _) (Scan.keeps_trap _)
  have covered (far : Nat) : Scan.Keeps Repointed (Scan.coverMatch direction near far) := by
    apply Scan.keeps_update
    intro s
    cases direction with
    | forward => exact ⟨s.cursor, near, far, rfl⟩
    | backward => exact ⟨s.cursor, far, near, rfl⟩
  rw [Entry.take]
  apply Scan.Keeps.bind ends
  intro far
  apply Scan.Keeps.bind (placeCursor_repoints far)
  intro _
  have ended (accepted : Bool) : Scan.Keeps Repointed (do
      if accepted then Scan.coverMatch direction near far
      return accepted) :=
    ((covered far).bind fun _ => Scan.keeps_pure accepted).ite (Scan.keeps_pure accepted)
  cases conditional : entry.condition with
  | none => exact (Scan.keeps_pure true).bind ended
  | some condition =>
      apply Scan.Keeps.bind (repoint condition conditional)
      intro holds
      apply Scan.Keeps.bind (placeCursor_repoints far)
      intro _
      exact (Scan.keeps_pure holds).bind ended

theorem walk_repoints {table : RuleTable Scan ρ} (repoint : table.ConditionsRepoint)
    (direction : Direction) (near shared fuel index : Nat) :
    Scan.Keeps Repointed (table.walk direction near shared fuel index : Scan (Option ρ)) := by
  induction fuel generalizing index with
  | zero => exact Scan.keeps_trap _
  | succ fuel ih =>
      cases found : table[index]? with
      | none =>
          rw [walk, found]
          exact Scan.keeps_trap _
      | some entry =>
          have tried := take_repoints (repoint entry (List.mem_of_getElem? found)) direction near
          rw [walk_succ found]
          apply Scan.Keeps.ite_bind tried (Scan.keeps_pure false)
          intro taken
          apply Scan.Keeps.ite (Scan.keeps_pure _)
          cases entry.link with
          | some next => exact ih next
          | none =>
              apply Scan.Keeps.bind (placeCursor_repoints near)
              intro _
              exact Scan.keeps_pure none

/-- A search changes the cursor and the slice alone, if each condition does; so a condition may
search another such table. -/
theorem find_repoints {table : RuleTable Scan ρ} (repoint : table.ConditionsRepoint)
    (direction : Direction) : Scan.Keeps Repointed (table.find direction : Scan (Option ρ)) := by
  have looked : Scan.Keeps Repointed Scan.state := by
    constructor
    intro s after left
    cases left
    exact refl_of Repointed s
  have searched : Scan.Keeps Repointed (Scan.search table direction) := by
    constructor
    intro s after left
    rw [Scan.search] at left
    split at left
    · cases left
      exact refl_of Repointed s
    · cases left
  rw [find]
  apply Scan.Keeps.ite (Scan.keeps_pure none)
  apply Scan.Keeps.bind looked
  intro before
  apply Scan.Keeps.bind searched
  intro candidate
  exact walk_repoints repoint direction _ _ _ _

end RuleTable

end Stemming
