import Mathlib.Data.List.Induction
import Stemming.Proofs.RuleTable.Search

set_option autoImplicit false

namespace Stemming

/-- Every scan that meets `long` has met the shorter `short` before. -/
def Direction.ProperAffix (direction : Direction) (short long : List Char) : Prop :=
  short.length < long.length ∧ direction.reading short <+: direction.reading long

namespace RuleTable

variable {M : Type → Type} {ρ : Type} {table : RuleTable M ρ} {direction : Direction}

/-- A link to the longest entry that is a proper affix of a pattern; no link if there is none. -/
def LongestAffix (table : RuleTable M ρ) (direction : Direction) (pattern : List Char) :
    Option Nat → Prop
  | none => ∀ entry ∈ table, ¬ direction.ProperAffix entry.pattern pattern
  | some index => ∃ entry, table[index]? = some entry ∧
      direction.ProperAffix entry.pattern pattern ∧
      ∀ other ∈ table, direction.ProperAffix other.pattern pattern → other.length ≤ entry.length

/-- The table is sorted and all its links are to longest affixes. -/
structure Sound (table : RuleTable M ρ) (direction : Direction) : Prop where
  sorted : table.Sorted direction
  links : ∀ {index : Nat} {entry : Entry M ρ}, table[index]? = some entry →
    table.LongestAffix direction entry.pattern entry.link

theorem sorted_of_firstUnordered?_eq_none (ordered : table.firstUnordered? direction = none) :
    table.Sorted direction := by
  have neighbours : ∀ pair ∈ table.zip table.tail,
      direction.Precedes pair.1.pattern pair.2.pattern := by
    intro pair member
    rw [firstUnordered?, Option.map_eq_none_iff, List.findIdx?_eq_none_iff] at ordered
    simpa using ordered pair member
  clear ordered
  induction table with
  | nil => exact List.Pairwise.nil
  | cons first rest ih =>
      cases rest with
      | nil => exact List.pairwise_singleton _ _
      | cons second rest =>
          have ascending : direction.Precedes first.pattern second.pattern :=
            neighbours (first, second) (by simp)
          have sorted : RuleTable.Sorted (second :: rest) direction := by
            apply ih
            intro pair member
            exact neighbours pair (by simpa using Or.inr member)
          refine List.pairwise_cons.mpr ⟨?_, sorted⟩
          intro other member
          rcases List.mem_cons.mp member with rfl | later
          · exact ascending
          · exact List.lt_trans ascending ((List.pairwise_cons.mp sorted).1 other later)

/-- Folding keeps the longest of the entries gone through. -/
theorem foldl_longer (affixes : List (Entry M ρ × Nat)) :
    match affixes.foldl (fun best (entry, index) => longer best (entry.length, index)) none with
    | none => affixes = []
    | some (length, index) => ∃ entry, (entry, index) ∈ affixes ∧ entry.length = length ∧
        ∀ other ∈ affixes, other.1.length ≤ length := by
  induction affixes using List.reverseRecOn with
  | nil => rfl
  | append_singleton affixes last ih =>
      rw [List.foldl_append]
      simp only [List.foldl_cons, List.foldl_nil]
      cases best : affixes.foldl (fun best (entry, index) => longer best (entry.length, index))
          none with
      | none =>
          rw [best] at ih
          simp only at ih
          subst ih
          exact ⟨last.1, by simp, rfl, by simp⟩
      | some current =>
          rw [best] at ih
          obtain ⟨length, index⟩ := current
          obtain ⟨entry, member, rfl, longest⟩ := ih
          by_cases replaces : entry.length ≤ last.1.length
          · simp only [longer, if_pos replaces]
            refine ⟨last.1, by simp, rfl, ?_⟩
            intro other among
            rcases List.mem_append.mp among with earlier | atEnd
            · exact Nat.le_trans (longest other earlier) replaces
            · rw [List.mem_singleton.mp atEnd]
          · simp only [longer, if_neg replaces]
            refine ⟨entry, by simp [member], rfl, ?_⟩
            intro other among
            rcases List.mem_append.mp among with earlier | atEnd
            · exact longest other earlier
            · rw [List.mem_singleton.mp atEnd]
              omega

theorem mem_affixes_iff (direction : Direction) (pattern : List Char) (entry : Entry M ρ)
    (index : Nat) :
    (entry, index) ∈ table.zipIdx.filter (fun (entry, _) =>
      entry.length < pattern.length && direction.isAffix entry.pattern pattern) ↔
      table[index]? = some entry ∧ direction.ProperAffix entry.pattern pattern := by
  rw [List.mem_filter, List.mem_zipIdx_iff_getElem?, Direction.ProperAffix]
  simp only [Bool.and_eq_true, decide_eq_true_eq, Direction.isAffix, List.isPrefixOf_iff_prefix]

theorem longestAffix?_longest (pattern : List Char) :
    table.LongestAffix direction pattern (table.longestAffix? direction pattern) := by
  have chosen := foldl_longer (table.zipIdx.filter fun (entry, _) =>
    entry.length < pattern.length && direction.isAffix entry.pattern pattern)
  rw [longestAffix?]
  generalize List.foldl (fun best (entry, index) => longer best (entry.length, index)) none
    (table.zipIdx.filter fun (entry, _) =>
      entry.length < pattern.length && direction.isAffix entry.pattern pattern) = best at chosen ⊢
  cases best with
  | none =>
      intro entry member affix
      obtain ⟨index, found⟩ := List.mem_iff_getElem?.mp member
      have among := (mem_affixes_iff direction pattern entry index).mpr ⟨found, affix⟩
      simp only at chosen
      rw [chosen] at among
      exact absurd among List.not_mem_nil
  | some current =>
      obtain ⟨length, index⟩ := current
      obtain ⟨entry, among, rfl, longest⟩ := chosen
      obtain ⟨found, affix⟩ := (mem_affixes_iff direction pattern entry index).mp among
      refine ⟨entry, found, affix, ?_⟩
      intro other member otherAffix
      obtain ⟨place, otherFound⟩ := List.mem_iff_getElem?.mp member
      exact longest (other, place) ((mem_affixes_iff direction pattern other place).mpr
        ⟨otherFound, otherAffix⟩)

theorem sound_of_violation?_eq_none (passed : table.violation? direction = none) :
    table.Sound direction := by
  rw [violation?] at passed
  cases unordered : table.firstUnordered? direction with
  | some index => simp [unordered] at passed
  | none =>
      rw [unordered] at passed
      simp only [Option.map_eq_none_iff, firstWrongLink?, List.findIdx?_eq_none_iff] at passed
      refine ⟨sorted_of_firstUnordered?_eq_none unordered, ?_⟩
      intro index entry found
      have same := passed entry (List.mem_of_getElem? found)
      rw [bne_eq_false_iff_eq] at same
      rw [same]
      exact longestAffix?_longest entry.pattern

theorem Sorted.index_eq_of_pattern_eq (sorted : table.Sorted direction) {index place : Nat}
    {entry other : Entry M ρ} (found : table[index]? = some entry)
    (otherFound : table[place]? = some other) (same : entry.pattern = other.pattern) :
    index = place := by
  rcases Nat.lt_trichotomy index place with before | equal | after
  · have ascending := sorted.key_lt found otherFound before
    rw [Entry.key, same] at ascending
    exact absurd ascending (List.lt_irrefl _)
  · exact equal
  · have ascending := sorted.key_lt otherFound found after
    rw [Entry.key, ← same] at ascending
    exact absurd ascending (List.lt_irrefl _)

theorem Sorted.eq_of_pattern_eq (sorted : table.Sorted direction) {entry other : Entry M ρ}
    (member : entry ∈ table) (otherMember : other ∈ table)
    (same : entry.pattern = other.pattern) : entry = other := by
  obtain ⟨index, found⟩ := List.mem_iff_getElem?.mp member
  obtain ⟨place, otherFound⟩ := List.mem_iff_getElem?.mp otherMember
  rw [sorted.index_eq_of_pattern_eq found otherFound same, otherFound] at found
  exact (Option.some.inj found).symm

end RuleTable

end Stemming
