import Stemming.Proofs.Scan.Window
import Stemming.Proofs.Text.CommonLength

set_option autoImplicit false

namespace Stemming

/-- The pattern of an entry in the order in which a scan reads it. -/
abbrev Entry.key {M : Type → Type} {ρ : Type} (entry : Entry M ρ) (direction : Direction) :
    List Char :=
  direction.reading entry.pattern

theorem Entry.length_key {M : Type → Type} {ρ : Type} (entry : Entry M ρ)
    (direction : Direction) : (entry.key direction).length = entry.length :=
  Direction.length_reading direction entry.pattern

namespace ScanState

variable {s : ScanState}

theorem compareFrom_of_end {direction : Direction} {shared : Nat} {wanted : Char}
    (atEnd : s.letterAway direction shared = .ok none) (rest : List Char) :
    s.compareFrom direction shared (wanted :: rest) = .ok ⟨shared, true⟩ := by
  rw [compareFrom, atEnd]
  rfl

theorem compareFrom_of_letter {direction : Direction} {shared : Nat} {wanted letter : Char}
    (met : s.letterAway direction shared = .ok (some letter)) (rest : List Char) :
    s.compareFrom direction shared (wanted :: rest) =
      if letter = wanted then s.compareFrom direction (shared + 1) rest
      else .ok ⟨shared, letter < wanted⟩ := by
  rw [compareFrom, met]
  rfl

theorem compareFrom_eq (ordered : s.WindowInOrder) (direction : Direction) (rest : List Char)
    (shared : Nat) (inside : shared ≤ (s.ahead direction).length) :
    s.compareFrom direction shared rest =
      .ok ⟨shared + Text.commonLength ((s.ahead direction).drop shared) rest,
        decide ((s.ahead direction).drop shared < rest)⟩ := by
  induction rest generalizing shared with
  | nil => simp [compareFrom]
  | cons wanted rest ih =>
      have met := ordered.letterAway_eq direction inside
      by_cases atEnd : shared = (s.ahead direction).length
      · rw [List.getElem?_eq_none (by omega)] at met
        rw [compareFrom_of_end met]
        simp [atEnd]
      · have more : shared < (s.ahead direction).length := by omega
        rw [List.getElem?_eq_getElem more] at met
        rw [compareFrom_of_letter met, List.drop_eq_getElem_cons more]
        simp only [Text.commonLength_cons_cons, List.cons_lt_cons_iff]
        by_cases same : (s.ahead direction)[shared] = wanted
        · simp only [same, ↓reduceIte, ih (shared + 1) more, lt_irrefl, true_and, false_or]
          congr 2
          omega
        · simp only [same, ↓reduceIte, false_and, or_false, Nat.add_zero]

theorem compare_eq (ordered : s.WindowInOrder) (direction : Direction) (pattern : List Char)
    (shared : Nat)
    (known : shared ≤ Text.commonLength (s.ahead direction) (direction.reading pattern)) :
    s.compare direction shared pattern =
      .ok ⟨Text.commonLength (s.ahead direction) (direction.reading pattern),
        decide (s.ahead direction < direction.reading pattern)⟩ := by
  have inside := Nat.le_trans known (Text.commonLength_le_left _ _)
  rw [compare, compareFrom_eq ordered direction _ shared inside,
    Text.add_commonLength_drop _ _ _ known]
  simp only [Text.drop_lt_drop_iff _ _ _ known]

/-- Whatever is already taken for shared, a comparison never counts letters beyond the window. -/
theorem compare_bounded (ordered : s.WindowInOrder) (direction : Direction)
    (pattern : List Char) (shared : Nat) (inside : shared ≤ (s.ahead direction).length) :
    ∃ result, s.compare direction shared pattern = .ok result ∧
      result.shared ≤ (s.ahead direction).length := by
  refine ⟨_, compareFrom_eq ordered direction _ shared inside, ?_⟩
  have counted := Text.commonLength_le_left ((s.ahead direction).drop shared)
    ((direction.reading pattern).drop shared)
  rw [List.length_drop] at counted
  dsimp only
  omega

end ScanState

namespace RuleTable

variable {M : Type → Type} {ρ : Type} {table : RuleTable M ρ} {direction : Direction}
  {s : ScanState}

/-- The entries stand in ascending order, no two of them alike. -/
def Sorted (table : RuleTable M ρ) (direction : Direction) : Prop :=
  table.Pairwise fun lower upper => direction.Precedes lower.pattern upper.pattern

theorem Sorted.key_lt (sorted : table.Sorted direction) {lower upper : Nat}
    {below above : Entry M ρ} (atLower : table[lower]? = some below)
    (atUpper : table[upper]? = some above) (before : lower < upper) :
    below.key direction < above.key direction := by
  obtain ⟨lowerInside, rfl⟩ := List.getElem?_eq_some_iff.mp atLower
  obtain ⟨upperInside, rfl⟩ := List.getElem?_eq_some_iff.mp atUpper
  exact List.pairwise_iff_getElem.mp sorted lower upper lowerInside upperInside before

/-- A lower end of the interval that a search may come to: an entry that the text has reached, or
the first entry, which is compared last. -/
def LowerEnd (table : RuleTable M ρ) (direction : Direction) (text : List Char)
    (found : Candidate) : Prop :=
  found = ⟨0, 0⟩ ∨ ∃ entry, table[found.index]? = some entry ∧
    ¬ text < entry.key direction ∧ found.shared = Text.commonLength text (entry.key direction)

/-- An upper end of the interval that a search may come to: an entry that the text has not reached,
or the end of the table. -/
def UpperEnd (table : RuleTable M ρ) (direction : Direction) (text : List Char)
    (found : Candidate) : Prop :=
  found = ⟨table.length, 0⟩ ∨ ∃ entry, table[found.index]? = some entry ∧
    text < entry.key direction ∧ found.shared = Text.commonLength text (entry.key direction)

/-- The letters that both ends share with the text are shared by every entry between them, so they
need not be compared again. -/
theorem Sorted.shared_between (sorted : table.Sorted direction) {text : List Char}
    {lower upper : Candidate} {middle : Nat} {entry : Entry M ρ}
    (low : table.LowerEnd direction text lower) (high : table.UpperEnd direction text upper)
    (atMiddle : table[middle]? = some entry) (above : lower.index < middle)
    (below : middle < upper.index) :
    min lower.shared upper.shared ≤ Text.commonLength text (entry.key direction) := by
  rcases low with rfl | ⟨first, atLower, _, lowShared⟩
  · exact Nat.le_trans (Nat.min_le_left _ _) (Nat.zero_le _)
  · rcases high with rfl | ⟨last, atUpper, _, highShared⟩
    · exact Nat.le_trans (Nat.min_le_right _ _) (Nat.zero_le _)
    · have atLeastLow : min lower.shared upper.shared ≤
          Text.commonLength text (first.key direction) := lowShared ▸ Nat.min_le_left _ _
      have atLeastHigh : min lower.shared upper.shared ≤
          Text.commonLength text (last.key direction) := highShared ▸ Nat.min_le_right _ _
      exact Text.le_commonLength_of_between atLeastLow atLeastHigh
        (List.lt_asymm (sorted.key_lt atLower atMiddle above))
        (List.lt_asymm (sorted.key_lt atMiddle atUpper below))

theorem narrowTo_of_single {lower upper : Candidate} (fuel : Nat)
    (single : upper.index ≤ lower.index + 1) :
    table.narrowTo s direction fuel lower upper = .ok lower := by
  rw [narrowTo.eq_def, if_pos single]

theorem narrowTo_of_compare {lower upper : Candidate} {fuel middle : Nat} {entry : Entry M ρ}
    {result : ScanState.Comparison} (wide : ¬ upper.index ≤ lower.index + 1)
    (halfway : lower.index + (upper.index - lower.index) / 2 = middle)
    (atMiddle : table[middle]? = some entry)
    (compared : s.compare direction (min lower.shared upper.shared) entry.pattern = .ok result) :
    table.narrowTo s direction (fuel + 1) lower upper =
      if result.below then table.narrowTo s direction fuel lower ⟨middle, result.shared⟩
      else table.narrowTo s direction fuel ⟨middle, result.shared⟩ upper := by
  subst halfway
  rw [narrowTo, if_neg wide]
  simp only [atMiddle, compared]
  rfl

/-- The comparison with an entry between the two ends of an interval has an answer, and the end that
it moves to that entry has again what the ends on its side have. -/
def KeepsEnds (table : RuleTable M ρ) (s : ScanState) (direction : Direction)
    (Low High : Candidate → Prop) : Prop :=
  ∀ ⦃lower upper : Candidate⦄ ⦃middle : Nat⦄ ⦃entry : Entry M ρ⦄, Low lower → High upper →
    table[middle]? = some entry → lower.index < middle → middle < upper.index →
    ∃ result, s.compare direction (min lower.shared upper.shared) entry.pattern = .ok result ∧
      if result.below then High ⟨middle, result.shared⟩ else Low ⟨middle, result.shared⟩

theorem Sorted.keepsEnds (sorted : table.Sorted direction) (ordered : s.WindowInOrder) :
    table.KeepsEnds s direction (table.LowerEnd direction (s.ahead direction))
      (table.UpperEnd direction (s.ahead direction)) := by
  intro lower upper middle entry low high atMiddle above below
  refine ⟨_, ScanState.compare_eq ordered direction entry.pattern _
    (sorted.shared_between low high atMiddle above below), ?_⟩
  by_cases notReached : s.ahead direction < entry.key direction
  · rw [if_pos (decide_eq_true notReached)]
    exact .inr ⟨entry, atMiddle, notReached, rfl⟩
  · rw [if_neg (by simpa using notReached)]
    exact .inr ⟨entry, atMiddle, notReached, rfl⟩

theorem keepsEnds_shared_le (table : RuleTable M ρ) (ordered : s.WindowInOrder) :
    table.KeepsEnds s direction (fun lower => lower.shared ≤ (s.ahead direction).length)
      (fun upper => upper.shared ≤ (s.ahead direction).length) := by
  intro lower upper middle entry low _ _ _ _
  obtain ⟨result, compared, bounded⟩ := ScanState.compare_bounded ordered direction entry.pattern
    (min lower.shared upper.shared) (Nat.le_trans (Nat.min_le_left _ _) low)
  refine ⟨result, compared, ?_⟩
  rw [ite_self]
  exact bounded

/-- The interval shrinks to one entry, and its ends still have what they had before. -/
theorem KeepsEnds.narrowTo {Low High : Candidate → Prop}
    (keeps : table.KeepsEnds s direction Low High) (fuel : Nat) (lower upper : Candidate)
    (low : Low lower) (high : High upper) (nonempty : lower.index < upper.index)
    (inside : upper.index ≤ table.length) (enough : upper.index ≤ lower.index + fuel + 1) :
    ∃ found next, table.narrowTo s direction fuel lower upper = .ok found ∧ Low found ∧
      High next ∧ next.index = found.index + 1 ∧ next.index ≤ table.length := by
  induction fuel generalizing lower upper with
  | zero => exact ⟨lower, upper, narrowTo_of_single _ enough, low, high, by omega, inside⟩
  | succ fuel ih =>
      by_cases single : upper.index ≤ lower.index + 1
      · exact ⟨lower, upper, narrowTo_of_single _ single, low, high, by omega, inside⟩
      · obtain ⟨middle, halfway⟩ :
            ∃ middle, lower.index + (upper.index - lower.index) / 2 = middle := ⟨_, rfl⟩
        have above : lower.index < middle := by omega
        have below : middle < upper.index := by omega
        have atMiddle : table[middle]? = some table[middle] := List.getElem?_eq_getElem (by omega)
        obtain ⟨result, compared, moved⟩ := keeps low high atMiddle above below
        rw [narrowTo_of_compare single halfway atMiddle compared]
        cases ended : result.below with
        | true =>
            rw [ended, if_pos rfl] at moved
            exact ih _ _ low moved above (by dsimp only; omega) (by dsimp only; omega)
        | false =>
            rw [ended, if_neg Bool.false_ne_true] at moved
            exact ih _ _ moved high below inside (by dsimp only; omega)

theorem KeepsEnds.narrowTo_whole {Low High : Candidate → Prop}
    (keeps : table.KeepsEnds s direction Low High) (nonempty : 0 < table.length)
    (low : Low ⟨0, 0⟩) (high : High ⟨table.length, 0⟩) :
    ∃ found next, table.narrowTo s direction table.length ⟨0, 0⟩ ⟨table.length, 0⟩ = .ok found ∧
      Low found ∧ High next ∧ next.index = found.index + 1 ∧ next.index ≤ table.length :=
  keeps.narrowTo table.length _ _ low high nonempty (Nat.le_refl _) (by simp)

/-- The candidate that a search of a sorted table has to find. -/
inductive Nearest (table : RuleTable M ρ) (direction : Direction) (text : List Char) :
    Candidate → Prop
  /-- The last entry that the text has reached, with all that both share. -/
  | reached {index : Nat} {entry : Entry M ρ} (found : table[index]? = some entry)
      (reached : ¬ text < entry.key direction)
      (last : ∀ {later : Nat} {other : Entry M ρ}, index < later → table[later]? = some other →
        text < other.key direction) :
      Nearest table direction text ⟨index, Text.commonLength text (entry.key direction)⟩
  /-- The first entry, with nothing shared, if the text is below all entries. -/
  | below (all : ∀ entry ∈ table, text < entry.key direction) :
      Nearest table direction text ⟨0, 0⟩

theorem Sorted.beyond (sorted : table.Sorted direction) {text : List Char} {next : Candidate}
    (high : table.UpperEnd direction text next) {later : Nat} {other : Entry M ρ}
    (after : next.index ≤ later) (atLater : table[later]? = some other) :
    text < other.key direction := by
  rcases high with rfl | ⟨entry, atNext, notReached, _⟩
  · have := (List.getElem?_eq_some_iff.mp atLater).1
    simp only at after
    omega
  · rcases Nat.lt_or_eq_of_le after with before | same
    · exact List.lt_trans notReached (sorted.key_lt atNext atLater before)
    · subst same
      rw [atNext] at atLater
      cases atLater
      exact notReached

theorem search_of_narrowTo {found : Candidate}
    (narrowed : table.narrowTo s direction table.length ⟨0, 0⟩ ⟨table.length, 0⟩ = .ok found)
    (later : found.index ≠ 0) : table.search s direction = .ok found := by
  rw [search, narrowed]
  exact if_neg later

theorem search_of_compare {found : Candidate} {first : Entry M ρ}
    {result : ScanState.Comparison}
    (narrowed : table.narrowTo s direction table.length ⟨0, 0⟩ ⟨table.length, 0⟩ = .ok found)
    (atFirst : found.index = 0) (atZero : table[0]? = some first)
    (compared : s.compare direction 0 first.pattern = .ok result) :
    table.search s direction = .ok ⟨0, if result.below then 0 else result.shared⟩ := by
  rw [search, narrowed]
  refine (if_pos atFirst).trans ?_
  simp only [atZero, compared]
  rfl

/-- Binary search in a sorted table: it comes to an end, and finds the last entry that the text has
reached. -/
theorem Sorted.search_nearest (sorted : table.Sorted direction) (ordered : s.WindowInOrder)
    (nonempty : 0 < table.length) :
    ∃ found, table.search s direction = .ok found ∧
      table.Nearest direction (s.ahead direction) found := by
  obtain ⟨found, next, narrowed, low, high, adjacent, _⟩ :=
    (sorted.keepsEnds ordered).narrowTo_whole nonempty (.inl rfl) (.inl rfl)
  have atZero : table[0]? = some table[0] := List.getElem?_eq_getElem nonempty
  by_cases atFirst : found.index = 0
  · have compared := ScanState.compare_eq ordered direction table[0].pattern 0 (Nat.zero_le _)
    refine ⟨_, search_of_compare narrowed atFirst atZero compared, ?_⟩
    by_cases below : s.ahead direction < table[0].key direction
    · rw [if_pos (decide_eq_true below)]
      refine .below ?_
      intro entry member
      obtain ⟨index, atIndex⟩ := List.mem_iff_getElem?.mp member
      rcases Nat.eq_zero_or_pos index with rfl | positive
      · rw [atZero] at atIndex
        cases atIndex
        exact below
      · exact List.lt_trans below (sorted.key_lt atZero atIndex positive)
    · rw [if_neg (by simpa using below)]
      refine .reached atZero below ?_
      intro later other after atLater
      exact sorted.beyond high (by omega) atLater
  · refine ⟨found, search_of_narrowTo narrowed atFirst, ?_⟩
    obtain ⟨index, shared⟩ := found
    rcases low with first | ⟨entry, atIndex, reached, rfl⟩
    · cases first
      exact absurd rfl atFirst
    · refine .reached atIndex reached ?_
      intro later other after atLater
      exact sorted.beyond high (by simp only at adjacent; omega) atLater

/-- A search of any table with an entry comes to an entry of the table, without a look beyond the
window. -/
theorem search_bounded (direction : Direction) (ordered : s.WindowInOrder)
    (nonempty : 0 < table.length) :
    ∃ found, table.search s direction = .ok found ∧
      found.index < table.length ∧ found.shared ≤ (s.ahead direction).length := by
  obtain ⟨found, next, narrowed, bounded, _, adjacent, inside⟩ :=
    (table.keepsEnds_shared_le ordered).narrowTo_whole nonempty (Nat.zero_le _) (Nat.zero_le _)
  by_cases atFirst : found.index = 0
  · have atZero : table[0]? = some table[0] := List.getElem?_eq_getElem nonempty
    obtain ⟨result, compared, sharedBounded⟩ := ScanState.compare_bounded ordered direction
      table[0].pattern 0 (Nat.zero_le _)
    refine ⟨_, search_of_compare narrowed atFirst atZero compared, nonempty, ?_⟩
    cases result.below with
    | true => exact Nat.zero_le _
    | false => exact sharedBounded
  · exact ⟨found, search_of_narrowTo narrowed atFirst, by omega, bounded⟩

end RuleTable

end Stemming
