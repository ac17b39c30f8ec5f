import Mathlib.Order.Bounds.Basic
import Stemming.Proofs.RuleTable.Uses

set_option autoImplicit false

namespace Stemming

namespace Text

/-- The common length is the length of the longest text with which both texts begin. -/
theorem isGreatest_commonLength (text pattern : List Char) :
    IsGreatest {count | ∃ lead : List Char, lead.length = count ∧ lead <+: text ∧ lead <+: pattern}
      (commonLength text pattern) := by
  constructor
  · refine ⟨text.take (commonLength text pattern), ?_, List.take_prefix _ _, ?_⟩
    · rw [List.length_take, Nat.min_eq_left (commonLength_le_left text pattern)]
    · rw [take_commonLength]
      exact List.take_prefix _ _
  · rintro count ⟨lead, rfl, begins, patternBegins⟩
    exact length_le_commonLength begins patternBegins

end Text

namespace RuleTable

variable {M : Type → Type} {ρ : Type} {table : RuleTable M ρ} {direction : Direction}
  {s : ScanState}

/-- The numbers of the entries that a text has reached: read as the scan reads them, they are not
above it. -/
def reached (table : RuleTable M ρ) (direction : Direction) (text : List Char) : Set Nat :=
  {index | ∃ entry, table[index]? = some entry ∧ ¬ text < entry.key direction}

theorem reached_eq_empty_iff {text : List Char} :
    table.reached direction text = ∅ ↔ ∀ entry ∈ table, text < entry.key direction := by
  rw [Set.eq_empty_iff_forall_notMem]
  constructor
  · intro unreached entry member
    obtain ⟨index, found⟩ := List.mem_iff_getElem?.mp member
    by_contra notBelow
    exact unreached index ⟨entry, found, notBelow⟩
  · rintro below index ⟨entry, found, notBelow⟩
    exact notBelow (below entry (List.mem_of_getElem? found))

theorem Nearest.last_reached {text : List Char} {found : Candidate}
    (nearest : table.Nearest direction text found)
    (present : (table.reached direction text).Nonempty) :
    IsGreatest (table.reached direction text) found.index ∧
      ∃ entry, table[found.index]? = some entry ∧
        found.shared = Text.commonLength text (entry.key direction) := by
  cases nearest with
  | reached atIndex reached last =>
      refine ⟨⟨⟨_, atIndex, reached⟩, ?_⟩, _, atIndex, rfl⟩
      rintro later ⟨other, atLater, notBelow⟩
      exact Nat.le_of_not_lt fun after => notBelow (last after atLater)
  | below all => exact absurd (reached_eq_empty_iff.mpr all) present.ne_empty

theorem Nearest.eq_of_unreached {text : List Char} {found : Candidate}
    (nearest : table.Nearest direction text found)
    (unreached : table.reached direction text = ∅) : found = ⟨0, 0⟩ := by
  cases nearest with
  | reached atIndex reached _ =>
      exact absurd (reached_eq_empty_iff.mp unreached _ (List.mem_of_getElem? atIndex)) reached
  | below _ => rfl

/-- Binary search of a sorted table with an entry, whatever its links and conditions are. It comes
to its end after using entries of the table and letters of the window only. If the text ahead has
reached some entry, it gives the last such entry and the number of letters with which both begin; if
not, the first entry with no letters. -/
theorem Sorted.search_finds_last_reached (sorted : table.Sorted direction)
    (ordered : s.WindowInOrder) (nonempty : table ≠ []) :
    ∃ found, table.search s direction = .ok found ∧
      (table.watchSearch s direction).outcome = .ok found ∧
      (table.watchSearch s direction).Uses (Use.InBounds table.length s) ∧
      ((table.reached direction (s.ahead direction)).Nonempty →
        IsGreatest (table.reached direction (s.ahead direction)) found.index ∧
        ∃ entry, table[found.index]? = some entry ∧
          IsGreatest {count | ∃ lead : List Char, lead.length = count ∧
            lead <+: s.ahead direction ∧ lead <+: entry.key direction} found.shared) ∧
      (table.reached direction (s.ahead direction) = ∅ → found = ⟨0, 0⟩) := by
  have counted : 0 < table.length := List.length_pos_of_ne_nil nonempty
  obtain ⟨found, searched, nearest⟩ := sorted.search_nearest ordered counted
  refine ⟨found, searched, (watchSearch_outcome s direction table).trans searched,
    watchSearch_uses direction ordered counted, ?_, nearest.eq_of_unreached⟩
  intro present
  obtain ⟨last, entry, atIndex, shared⟩ := nearest.last_reached present
  refine ⟨last, entry, atIndex, ?_⟩
  rw [shared]
  exact Text.isGreatest_commonLength _ _

/-- A table in order, with links that lead nowhere. -/
def mislinked : RuleTable Scan Nat :=
  [.plain "ba" (some 9) 0, .plain "cba" (some 1) 1, .plain "ca" none 2, .plain "b" (some 4) 3]

/-- The word ends with two letters of `cba`, and its third letter from the end is above the third of
`cba`: this is the last entry that is not above the text. The letter before the window plays no
part. -/
theorem Sorted.search_finds_last_reached_xzba :
    mislinked.search ⟨['x', 'z', 'b', 'a'], 4, 1, 4, 0, 0, [], .backward⟩ .backward = .ok ⟨1, 2⟩ ∧
      IsGreatest (mislinked.reached .backward ['a', 'b', 'z']) 1 := by
  have sorted : mislinked.Sorted .backward := by
    unfold Sorted
    decide
  have ordered : ScanState.WindowInOrder ⟨['x', 'z', 'b', 'a'], 4, 1, 4, 0, 0, [], .backward⟩ := by
    decide
  obtain ⟨found, searched, _, _, last, _⟩ :=
    sorted.search_finds_last_reached ordered (by simp [mislinked])
  have ended : mislinked.search ⟨['x', 'z', 'b', 'a'], 4, 1, 4, 0, 0, [], .backward⟩ .backward =
      .ok ⟨1, 2⟩ := by
    decide
  rw [ended] at searched
  cases searched
  exact ⟨ended, (last ⟨0, _, rfl, by decide⟩).1⟩

end RuleTable

end Stemming
