import Stemming.Proofs.RuleTable.LongestMatch

set_option autoImplicit false

namespace Stemming

/-- Something that a search uses. -/
inductive Use where
  | entry (index : Nat)
  | letter (position : Nat)
  | difference (whole part : Nat)

/-- The entry is one of a table with `entryCount` entries, the letter is in the window, and the
difference is not below zero. -/
def Use.InBounds (entryCount : Nat) (s : ScanState) : Use → Prop
  | .entry index => index < entryCount
  | .letter position => s.windowStart ≤ position ∧ position < s.windowEnd
  | .difference whole part => part ≤ whole

/-- A part of a search: how it ends, and all that it has used until then. -/
structure Watched (α : Type) where
  outcome : Except Trap α
  uses : List Use

namespace Watched

variable {α β : Type}

protected def pure (value : α) : Watched α :=
  ⟨.ok value, []⟩

protected def bind (first : Watched α) (next : α → Watched β) : Watched β :=
  match first.outcome with
  | .ok value => ⟨(next value).outcome, first.uses ++ (next value).uses⟩
  | .error trap => ⟨.error trap, first.uses⟩

instance : Monad Watched where
  pure := Watched.pure
  bind := Watched.bind

def letterAt (s : ScanState) (position : Nat) : Watched Char where
  outcome :=
    match s.letters[position]? with
    | some letter => .ok letter
    | none => .error .outsideWord
  uses := [.letter position]

def entryAt {M : Type → Type} {ρ : Type} (table : RuleTable M ρ) (index : Nat) :
    Watched (Entry M ρ) where
  outcome :=
    match table[index]? with
    | some entry => .ok entry
    | none => .error .noSuchEntry
  uses := [.entry index]

def difference (whole part : Nat) : Watched Nat where
  outcome := if part ≤ whole then .ok (whole - part) else .error .outsideWord
  uses := [.difference whole part]

theorem bind_outcome (first : Watched α) (next : α → Watched β) :
    (first >>= next).outcome = match first.outcome with
      | .ok value => (next value).outcome
      | .error trap => .error trap := by
  show (Watched.bind first next).outcome = _
  unfold Watched.bind
  cases first.outcome <;> rfl

theorem bind_of_ok {first : Watched α} {value : α} (ended : first.outcome = .ok value)
    (next : α → Watched β) : (first >>= next).outcome = (next value).outcome := by
  rw [bind_outcome, ended]

theorem bind_of_error {first : Watched α} {trap : Trap} (ended : first.outcome = .error trap)
    (next : α → Watched β) : (first >>= next).outcome = .error trap := by
  rw [bind_outcome, ended]

/-- Without the lists of what is used, one part after another is one plain part after another. -/
theorem bind_outcome_eq {first : Watched α} {plain : Except Trap α} (same : first.outcome = plain)
    {next : α → Watched β} {plainNext : α → Except Trap β}
    (nextSame : ∀ value, (next value).outcome = plainNext value) :
    (first >>= next).outcome = plain >>= plainNext := by
  rw [bind_outcome, same]
  cases plain with
  | ok value => exact nextSame value
  | error trap => rfl

theorem entryAt_outcome {M : Type → Type} {ρ : Type} {table : RuleTable M ρ} {index : Nat}
    {entry : Entry M ρ} (found : table[index]? = some entry) :
    (entryAt table index).outcome = .ok entry := by
  simp only [entryAt, found]

theorem entryAt_outcome_of_none {M : Type → Type} {ρ : Type} {table : RuleTable M ρ}
    {index : Nat} (missing : table[index]? = none) :
    (entryAt table index).outcome = .error .noSuchEntry := by
  simp only [entryAt, missing]

theorem difference_outcome {whole part : Nat} (inside : part ≤ whole) :
    (difference whole part).outcome = .ok (whole - part) :=
  if_pos inside

theorem difference_outcome_of_lt {whole part : Nat} (beyond : whole < part) :
    (difference whole part).outcome = .error .outsideWord :=
  if_neg (Nat.not_le_of_lt beyond)

/-- All that a part uses is allowed. -/
def Uses (part : Watched α) (allowed : Use → Prop) : Prop :=
  ∀ use ∈ part.uses, allowed use

variable {allowed : Use → Prop}

theorem uses_pure (value : α) : (pure value : Watched α).Uses allowed := by
  intro use member
  cases member

theorem Uses.bind {first : Watched α} {next : α → Watched β} (uses : first.Uses allowed)
    (nextUses : ∀ value, first.outcome = .ok value → (next value).Uses allowed) :
    (first >>= next).Uses allowed := by
  intro use member
  change use ∈ (Watched.bind first next).uses at member
  unfold Watched.bind at member
  cases ended : first.outcome with
  | error trap =>
      rw [ended] at member
      exact uses use member
  | ok value =>
      rw [ended] at member
      rcases List.mem_append.mp member with before | after
      · exact uses use before
      · exact nextUses value ended use after

section InBounds

variable {s : ScanState} {entryCount : Nat}

theorem letterAt_uses {position : Nat} (above : s.windowStart ≤ position)
    (below : position < s.windowEnd) : (letterAt s position).Uses (Use.InBounds entryCount s) := by
  intro use member
  rw [List.mem_singleton.mp member]
  exact ⟨above, below⟩

theorem entryAt_uses {M : Type → Type} {ρ : Type} {table : RuleTable M ρ} {index : Nat}
    (inside : index < table.length) :
    (entryAt table index).Uses (Use.InBounds table.length s) := by
  intro use member
  rw [List.mem_singleton.mp member]
  exact inside

theorem difference_uses {whole part : Nat} (inside : part ≤ whole) :
    (difference whole part).Uses (Use.InBounds entryCount s) := by
  intro use member
  rw [List.mem_singleton.mp member]
  exact inside

end InBounds

end Watched

namespace ScanState

def watchAway (s : ScanState) (direction : Direction) (distance : Nat) :
    Watched (Option Char) :=
  match direction with
  | .forward =>
    if s.cursor + distance = s.windowEnd then return none
    else return some (← Watched.letterAt s (s.cursor + distance))
  | .backward => do
    let left ← Watched.difference s.cursor distance
    if left = s.windowStart then return none
    else
      let last ← Watched.difference s.cursor 1
      return some (← Watched.letterAt s (← Watched.difference last distance))

def watchFrom (s : ScanState) (direction : Direction) :
    (shared : Nat) → (rest : List Char) → Watched Comparison
  | shared, [] => return ⟨shared, false⟩
  | shared, wanted :: rest => do
    match ← s.watchAway direction shared with
    | none => return ⟨shared, true⟩
    | some letter =>
      if letter = wanted then s.watchFrom direction (shared + 1) rest
      else return ⟨shared, letter < wanted⟩

def watchCompare (s : ScanState) (direction : Direction) (shared : Nat) (pattern : List Char) :
    Watched Comparison :=
  s.watchFrom direction shared ((direction.reading pattern).drop shared)

end ScanState

namespace RuleTable

variable {M : Type → Type} {ρ : Type}

def watchNarrow (table : RuleTable M ρ) (s : ScanState) (direction : Direction)
    (lower upper : Candidate) : Watched Candidate := do
  let _ ← Watched.difference upper.index lower.index
  if single : upper.index ≤ lower.index + 1 then
    return lower
  else
    let middle := lower.index + (upper.index - lower.index) / 2
    let entry ← Watched.entryAt table middle
    let result ← s.watchCompare direction (min lower.shared upper.shared) entry.pattern
    if result.below then table.watchNarrow s direction lower ⟨middle, result.shared⟩
    else table.watchNarrow s direction ⟨middle, result.shared⟩ upper
termination_by upper.index - lower.index
decreasing_by all_goals omega

/-- The search of a table with all that it uses. -/
def watchSearch (table : RuleTable M ρ) (s : ScanState) (direction : Direction) :
    Watched Candidate := do
  let found ← table.watchNarrow s direction ⟨0, 0⟩ ⟨table.length, 0⟩
  if found.index = 0 then
    let first ← Watched.entryAt table 0
    let result ← s.watchCompare direction 0 first.pattern
    return ⟨0, if result.below then 0 else result.shared⟩
  else
    return found

end RuleTable

section Outcomes

variable {M : Type → Type} {ρ : Type} (s : ScanState) (direction : Direction)

theorem ScanState.watchAway_outcome (distance : Nat) :
    (s.watchAway direction distance).outcome = s.letterAway direction distance := by
  cases direction with
  | forward =>
      simp only [watchAway, letterAway]
      split
      · rfl
      · rw [Watched.bind_outcome, Watched.letterAt]
        cases s.letters[s.cursor + distance]? <;> rfl
  | backward =>
      simp only [watchAway, letterAway]
      by_cases reaches : distance ≤ s.cursor
      · rw [Watched.bind_of_ok (Watched.difference_outcome reaches)]
        by_cases atStart : s.cursor = s.windowStart + distance
        · rw [if_pos atStart, if_pos (by omega)]
          rfl
        · rw [if_neg atStart, if_neg (by omega)]
          by_cases atEnd : s.cursor ≤ distance
          · rw [if_pos atEnd]
            by_cases first : s.cursor = 0
            · rw [Watched.bind_of_error (Watched.difference_outcome_of_lt (by omega))]
            · rw [Watched.bind_of_ok (Watched.difference_outcome (by omega)),
                Watched.bind_of_error (Watched.difference_outcome_of_lt (by omega))]
          · rw [if_neg atEnd, Watched.bind_of_ok (Watched.difference_outcome (by omega)),
              Watched.bind_of_ok (Watched.difference_outcome (by omega)), Nat.sub_sub,
              Nat.add_comm 1 distance, Watched.bind_outcome, Watched.letterAt]
            cases s.letters[s.cursor - (distance + 1)]? <;> rfl
      · rw [Watched.bind_of_error (Watched.difference_outcome_of_lt (by omega)),
          if_neg (by omega), if_pos (by omega)]

theorem ScanState.watchFrom_outcome (rest : List Char) (shared : Nat) :
    (s.watchFrom direction shared rest).outcome = s.compareFrom direction shared rest := by
  induction rest generalizing shared with
  | nil => rfl
  | cons wanted rest ih =>
      rw [watchFrom, compareFrom]
      apply Watched.bind_outcome_eq (s.watchAway_outcome direction shared)
      intro found
      cases found with
      | none => rfl
      | some letter =>
          by_cases same : letter = wanted
          · simp only [if_pos same]
            exact ih (shared + 1)
          · simp only [if_neg same]
            rfl

theorem ScanState.watchCompare_outcome (shared : Nat) (pattern : List Char) :
    (s.watchCompare direction shared pattern).outcome =
      s.compare direction shared pattern :=
  s.watchFrom_outcome direction _ shared

namespace RuleTable

variable (table : RuleTable M ρ)

/-- The loop comes to the same end as a number of steps that is as large as its interval. -/
theorem watchNarrow_outcome (fuel : Nat) (lower upper : Candidate)
    (nonempty : lower.index ≤ upper.index) (enough : upper.index ≤ lower.index + fuel) :
    (table.watchNarrow s direction lower upper).outcome =
      table.narrowTo s direction fuel lower upper := by
  induction fuel generalizing lower upper with
  | zero =>
      rw [watchNarrow, Watched.bind_of_ok (Watched.difference_outcome nonempty),
        dif_pos (by omega), narrowTo_of_single _ (by omega)]
      rfl
  | succ fuel ih =>
      rw [watchNarrow, Watched.bind_of_ok (Watched.difference_outcome nonempty), narrowTo]
      by_cases single : upper.index ≤ lower.index + 1
      · rw [dif_pos single, if_pos single]
        rfl
      · rw [dif_neg single, if_neg single]
        obtain ⟨middle, halfway⟩ :
            ∃ middle, lower.index + (upper.index - lower.index) / 2 = middle := ⟨_, rfl⟩
        simp only [halfway]
        cases atMiddle : table[middle]? with
        | none => exact Watched.bind_of_error (Watched.entryAt_outcome_of_none atMiddle) _
        | some entry =>
            rw [Watched.bind_of_ok (Watched.entryAt_outcome atMiddle)]
            apply Watched.bind_outcome_eq (s.watchCompare_outcome direction _ _)
            intro result
            cases result.below with
            | true => exact ih lower _ (by dsimp only; omega) (by dsimp only; omega)
            | false => exact ih _ upper (by dsimp only; omega) (by dsimp only; omega)

theorem watchSearch_outcome :
    (table.watchSearch s direction).outcome = table.search s direction := by
  rw [watchSearch, search]
  apply Watched.bind_outcome_eq (table.watchNarrow_outcome s direction table.length _ _
    (Nat.zero_le _) (Nat.le_add_left _ _))
  intro found
  by_cases atFirst : found.index = 0
  · rw [if_pos atFirst, if_pos atFirst]
    cases atZero : table[0]? with
    | none => exact Watched.bind_of_error (Watched.entryAt_outcome_of_none atZero) _
    | some first =>
        rw [Watched.bind_of_ok (Watched.entryAt_outcome atZero)]
        exact Watched.bind_outcome_eq (s.watchCompare_outcome direction _ _) fun _ => rfl
  · rw [if_neg atFirst, if_neg atFirst]
    rfl

end RuleTable

end Outcomes

section Bounds

variable {M : Type → Type} {ρ : Type} {s : ScanState} {direction : Direction} {entryCount : Nat}

/-- A letter is looked for only while there is one left in the window. -/
theorem ScanState.WindowInOrder.watchAway_uses (ordered : s.WindowInOrder) {distance : Nat}
    (inside : distance ≤ (s.ahead direction).length) :
    (s.watchAway direction distance).Uses (Use.InBounds entryCount s) := by
  have above := ordered.start_le_cursor
  have below := ordered.cursor_le_end
  cases direction with
  | forward =>
      rw [ordered.length_ahead_forward] at inside
      rw [watchAway]
      split
      · exact Watched.uses_pure none
      · next notAtEnd =>
        apply (Watched.letterAt_uses (by omega) (by omega)).bind
        intro letter _
        exact Watched.uses_pure (some letter)
  | backward =>
      rw [ordered.length_ahead_backward] at inside
      have reaches : distance ≤ s.cursor := by omega
      rw [watchAway]
      apply (Watched.difference_uses reaches).bind
      intro left ended
      rw [Watched.difference_outcome reaches] at ended
      cases ended
      split
      · exact Watched.uses_pure none
      · next notAtStart =>
        have last : 1 ≤ s.cursor := by omega
        have more : distance ≤ s.cursor - 1 := by omega
        apply (Watched.difference_uses last).bind
        intro position ended
        rw [Watched.difference_outcome last] at ended
        cases ended
        apply (Watched.difference_uses more).bind
        intro position ended
        rw [Watched.difference_outcome more] at ended
        cases ended
        apply (Watched.letterAt_uses (by omega) (by omega)).bind
        intro letter _
        exact Watched.uses_pure (some letter)

theorem ScanState.WindowInOrder.watchFrom_uses (ordered : s.WindowInOrder) (rest : List Char)
    {shared : Nat} (inside : shared ≤ (s.ahead direction).length) :
    (s.watchFrom direction shared rest).Uses (Use.InBounds entryCount s) := by
  induction rest generalizing shared with
  | nil => exact Watched.uses_pure _
  | cons wanted rest ih =>
      rw [watchFrom]
      apply (ordered.watchAway_uses inside).bind
      intro found ended
      rw [watchAway_outcome, ordered.letterAway_eq direction inside] at ended
      cases found with
      | none => exact Watched.uses_pure _
      | some letter =>
          have more : shared < (s.ahead direction).length :=
            (List.getElem?_eq_some_iff.mp (Except.ok.inj ended)).1
          by_cases same : letter = wanted
          · simp only [if_pos same]
            exact ih more
          · simp only [if_neg same]
            exact Watched.uses_pure _

namespace RuleTable

variable {table : RuleTable M ρ}

/-- No step of the loop takes more letters for shared than there are in the window. -/
theorem watchNarrow_uses (ordered : s.WindowInOrder) (lower upper : Candidate)
    (low : lower.shared ≤ (s.ahead direction).length)
    (high : upper.shared ≤ (s.ahead direction).length)
    (nonempty : lower.index ≤ upper.index) (inside : upper.index ≤ table.length) :
    (table.watchNarrow s direction lower upper).Uses (Use.InBounds table.length s) := by
  induction width : upper.index - lower.index using Nat.strongRecOn generalizing lower upper with
  | ind width ih =>
    rw [watchNarrow]
    apply (Watched.difference_uses nonempty).bind
    intro _ _
    by_cases single : upper.index ≤ lower.index + 1
    · rw [dif_pos single]
      exact Watched.uses_pure lower
    · rw [dif_neg single]
      obtain ⟨middle, halfway⟩ :
          ∃ middle, lower.index + (upper.index - lower.index) / 2 = middle := ⟨_, rfl⟩
      have above : lower.index < middle := by omega
      have below : middle < upper.index := by omega
      have known : min lower.shared upper.shared ≤ (s.ahead direction).length :=
        Nat.le_trans (Nat.min_le_left _ _) low
      simp only [halfway]
      apply (Watched.entryAt_uses (by omega)).bind
      intro entry _
      apply (ordered.watchFrom_uses _ known).bind
      intro result ended
      have bounded : result.shared ≤ (s.ahead direction).length := by
        obtain ⟨_, compared, bounded⟩ :=
          ScanState.compare_bounded ordered direction entry.pattern _ known
        rw [ScanState.watchFrom_outcome] at ended
        cases ended.symm.trans compared
        exact bounded
      cases result.below with
      | true =>
          exact ih (middle - lower.index) (by omega) lower ⟨middle, result.shared⟩ low bounded
            (Nat.le_of_lt above) (by dsimp only; omega) rfl
      | false =>
          exact ih (upper.index - middle) (by omega) ⟨middle, result.shared⟩ upper bounded high
            (Nat.le_of_lt below) inside rfl

theorem watchSearch_uses (direction : Direction) (ordered : s.WindowInOrder)
    (nonempty : 0 < table.length) :
    (table.watchSearch s direction).Uses (Use.InBounds table.length s) := by
  rw [watchSearch]
  apply (watchNarrow_uses ordered ⟨0, 0⟩ ⟨table.length, 0⟩ (Nat.zero_le _) (Nat.zero_le _)
    (Nat.zero_le _) (Nat.le_refl _)).bind
  intro found _
  split
  · apply (Watched.entryAt_uses nonempty).bind
    intro first _
    apply (ordered.watchFrom_uses _ (Nat.zero_le _)).bind
    intro result _
    exact Watched.uses_pure _
  · exact Watched.uses_pure found

/-- In any table without side conditions whose links are in order, a search comes to its end. On its
way it uses entries of the table and letters of the window only, and no difference below zero. Then
the first entry of the chain that has no more letters than are taken for shared gives the result:
the cursor goes past as many letters as the entry has, and the slice covers them, inside the window.
If there is no such entry, nothing has changed. -/
theorem Linked.find_in_bounds {table : RuleTable Scan ρ} (linked : table.Linked)
    (plain : ∀ entry ∈ table, entry.condition = none) (direction : Direction)
    (ordered : s.WindowInOrder) :
    (table = [] → table.find direction s = .returned none s) ∧
    (table ≠ [] → ∃ found entries, table.search s direction = .ok found ∧
      (table.watchSearch s direction).outcome = .ok found ∧
      (table.watchSearch s direction).Uses (Use.InBounds table.length s) ∧
      table.Chain found.index entries ∧
      ((entries.find? fun entry => entry.length ≤ found.shared) = none →
        table.find direction s = .returned none s) ∧
      ∀ entry, (entries.find? fun entry => entry.length ≤ found.shared) = some entry →
        ∃ far, s.Spans direction s.cursor far entry.length ∧
          table.find direction s =
            .returned (some entry.result) (s.covering direction s.cursor far)) := by
  constructor
  · rintro rfl
    rfl
  · intro nonempty
    have counted : 0 < table.length := List.length_pos_of_ne_nil nonempty
    obtain ⟨found, entries, searched, chain, unmatched, matched⟩ :=
      linked.find_of_plain direction ordered plain counted
    exact ⟨found, entries, searched, (watchSearch_outcome s direction table).trans searched,
      watchSearch_uses direction ordered counted, chain, unmatched, matched⟩

/-- A table out of order, with one pattern twice and a link that leads up. -/
def disordered : RuleTable Scan Nat :=
  [.plain "t" none 0, .plain "at" (some 0) 1, .plain "sx" (some 4) 2, .plain "xt" none 3,
    .plain "t" (some 0) 4, .plain "a" none 5]

/-- The search takes a letter for shared that it has not compared, so the entry `sx` is taken, with
which the word does not end. -/
theorem Linked.find_in_bounds_hest :
    disordered.violation? .backward = some (.malformedTable 3 .unordered) ∧
      (disordered.watchSearch ⟨['h', 'e', 's', 't'], 4, 1, 4, 0, 0, [], .backward⟩ .backward).Uses
        (Use.InBounds 6 ⟨['h', 'e', 's', 't'], 4, 1, 4, 0, 0, [], .backward⟩) ∧
      disordered.find .backward ⟨['h', 'e', 's', 't'], 4, 1, 4, 0, 0, [], .backward⟩ =
        .returned (some 2) ⟨['h', 'e', 's', 't'], 2, 1, 4, 2, 4, [], .backward⟩ := by
  have leads : ∀ index < 6, ∀ next ∈ disordered[index]?.bind (·.link),
      next < 6 ∧ (if next = 2 then 5 else next) < (if index = 2 then 5 else index) := by decide
  have linked : disordered.Linked := by
    have below {index next : Nat} (edge : disordered.LinksTo index next) :
        next < 6 ∧ (if next = 2 then 5 else next) < (if index = 2 then 5 else index) := by
      obtain ⟨entry, found, link⟩ := edge
      apply leads index (List.getElem?_eq_some_iff.mp found).1
      rw [found]
      exact link
    exact linked_of_rank _ (fun edge => (below edge).1) (fun edge => (below edge).2)
  have ordered : ScanState.WindowInOrder ⟨['h', 'e', 's', 't'], 4, 1, 4, 0, 0, [], .backward⟩ := by
    decide
  have plain : ∀ entry ∈ disordered, entry.condition = none := by
    intro entry member
    simp only [disordered, List.mem_cons, List.not_mem_nil, or_false] at member
    rcases member with rfl | rfl | rfl | rfl | rfl | rfl <;> rfl
  obtain ⟨found, entries, searched, _, uses, chain, _, taken⟩ :=
    (linked.find_in_bounds plain .backward ordered).2 (by simp [disordered])
  have reached : disordered.search ⟨['h', 'e', 's', 't'], 4, 1, 4, 0, 0, [], .backward⟩ .backward =
      .ok ⟨2, 2⟩ := by decide
  rw [reached] at searched
  cases searched
  refine ⟨by decide, uses, ?_⟩
  cases chain with
  | last atTwo unlinked =>
      cases atTwo
      cases unlinked
  | link atTwo _ _ =>
      cases atTwo
      obtain ⟨far, spans, ran⟩ := taken _ rfl
      obtain rfl : far = 2 := by
        have apart : far + 2 = 4 := spans.apart
        omega
      exact ran

end RuleTable

end Bounds

end Stemming
