import Mathlib.Data.List.Sort
import Stemming.Proofs.RuleTable.Links
import Stemming.Proofs.RuleTable.Sound
import Stemming.Scan.Edit

set_option autoImplicit false

namespace Stemming

/-- A scan in `direction` comes from `near` to `far` over `count` letters, and stays in the
window. -/
structure ScanState.Spans (s : ScanState) (direction : Direction) (near far count : Nat) :
    Prop where
  apart : match direction with
    | .forward => near + count = far
    | .backward => far + count = near
  start_le : s.windowStart ≤ min near far
  le_end : max near far ≤ s.windowEnd

theorem ScanState.WindowInOrder.spans_farEnd {s : ScanState} (ordered : s.WindowInOrder)
    (direction : Direction) {count : Nat} (room : count ≤ (s.ahead direction).length) :
    s.Spans direction s.cursor (farEnd direction s.cursor count) count := by
  have above := ordered.start_le_cursor
  have below := ordered.cursor_le_end
  cases direction with
  | forward =>
      rw [ordered.length_ahead_forward] at room
      refine ⟨rfl, ?_, ?_⟩
      · show s.windowStart ≤ min s.cursor (s.cursor + count)
        omega
      · show max s.cursor (s.cursor + count) ≤ s.windowEnd
        omega
  | backward =>
      rw [ordered.length_ahead_backward] at room
      refine ⟨?_, ?_, ?_⟩
      · show s.cursor - count + count = s.cursor
        omega
      · show s.windowStart ≤ min s.cursor (s.cursor - count)
        omega
      · show max s.cursor (s.cursor - count) ≤ s.windowEnd
        omega

theorem ScanState.Spans.covering_inOrder {s : ScanState} {direction : Direction}
    {near far count : Nat} (spans : s.Spans direction near far count) (ordered : s.WindowInOrder) :
    (s.covering direction near far).WindowInOrder := by
  have above := Nat.le_trans spans.start_le (Nat.min_le_right near far)
  have below := Nat.le_trans (Nat.le_max_right near far) spans.le_end
  cases direction with
  | forward => exact ⟨above, below, ordered.end_le_length⟩
  | backward => exact ⟨above, below, ordered.end_le_length⟩

namespace RuleTable

variable {M : Type → Type} {ρ : Type}

/-- The entries with which a text begins, as the scan reads it, the longest first. -/
def matching (table : RuleTable M ρ) (direction : Direction) (text : List Char) :
    List (Entry M ρ) :=
  (table.filter fun entry => (entry.key direction).isPrefixOf text).insertionSort
    fun longer shorter => shorter.length ≤ longer.length

variable {table : RuleTable M ρ} {direction : Direction}

theorem mem_matching {text : List Char} {entry : Entry M ρ} :
    entry ∈ table.matching direction text ↔ entry ∈ table ∧ entry.key direction <+: text := by
  rw [matching, List.mem_insertionSort, List.mem_filter, List.isPrefixOf_iff_prefix]

/-- Two entries of a sorted table with which one text begins have different lengths. -/
theorem Sorted.eq_of_length_eq (sorted : table.Sorted direction) {text : List Char}
    {entry other : Entry M ρ} (member : entry ∈ table) (otherMember : other ∈ table)
    (begins : entry.key direction <+: text) (otherBegins : other.key direction <+: text)
    (same : entry.length = other.length) : entry = other := by
  apply sorted.eq_of_pattern_eq member otherMember
  have keys : entry.key direction = other.key direction :=
    (List.prefix_of_prefix_length_le begins otherBegins
      (by rw [Entry.length_key, Entry.length_key, same])).eq_of_length
      (by rw [Entry.length_key, Entry.length_key, same])
  rw [Direction.reading_eq_iff, Direction.reading_reading] at keys
  exact keys

theorem eq_of_mem_iff {entries others : List (Entry M ρ)}
    (descending : entries.Pairwise fun longer shorter => shorter.length < longer.length)
    (othersDescending : others.Pairwise fun longer shorter => shorter.length < longer.length)
    (same : ∀ entry, entry ∈ entries ↔ entry ∈ others) : entries = others := by
  have different {list : List (Entry M ρ)}
      (strict : list.Pairwise fun longer shorter => shorter.length < longer.length) :
      list.Nodup := by
    apply strict.imp
    rintro longer shorter less rfl
    omega
  apply List.Perm.eq_of_pairwise _ descending othersDescending
  · exact (List.perm_ext_iff_of_nodup (different descending) (different othersDescending)).mpr same
  · intro first second _ _ less more
    omega

theorem Sorted.matching_descending (sorted : table.Sorted direction) (text : List Char) :
    (table.matching direction text).Pairwise fun longer shorter =>
      shorter.length < longer.length := by
  have different : (table.matching direction text).Nodup := by
    apply (List.perm_insertionSort _ _).nodup_iff.mpr
    apply List.Nodup.filter
    apply sorted.imp
    rintro lower upper precedes rfl
    exact absurd precedes (List.lt_irrefl _)
  have : Std.Total fun longer shorter : Entry M ρ => shorter.length ≤ longer.length :=
    ⟨fun first second => Nat.le_total second.length first.length⟩
  have : IsTrans (Entry M ρ) fun longer shorter => shorter.length ≤ longer.length :=
    ⟨fun _ _ _ first second => Nat.le_trans second first⟩
  have ordered : (table.matching direction text).Pairwise fun longer shorter =>
      shorter.length ≤ longer.length := List.pairwise_insertionSort _ _
  apply List.Pairwise.imp_of_mem _ (ordered.and different)
  rintro longer shorter member shorterMember ⟨notLonger, notSame⟩
  obtain ⟨inTable, begins⟩ := mem_matching.mp member
  obtain ⟨shorterInTable, shorterBegins⟩ := mem_matching.mp shorterMember
  apply Nat.lt_of_le_of_ne notLonger
  intro same
  exact notSame (sorted.eq_of_length_eq inTable shorterInTable begins shorterBegins same.symm)

/-- The second of two entries stands before the first in the table and is shorter. -/
def Descends (table : RuleTable M ρ) (index next : Nat) : Prop :=
  next < index ∧ ∃ entry other, table[index]? = some entry ∧ table[next]? = some other ∧
    other.length < entry.length

theorem Descends.trans {index next last : Nat} (first : table.Descends index next)
    (second : table.Descends next last) : table.Descends index last := by
  obtain ⟨before, entry, middle, found, middleFound, less⟩ := first
  obtain ⟨earlier, same, other, sameFound, otherFound, lesser⟩ := second
  rw [middleFound] at sameFound
  cases sameFound
  exact ⟨Nat.lt_trans earlier before, entry, other, found, otherFound, Nat.lt_trans lesser less⟩

/-- A link of a sound table leads down to a shorter entry: a proper affix of a pattern stands before
it in the table. -/
theorem Sound.descends_of_linksTo (sound : table.Sound direction) {index next : Nat}
    (edge : table.LinksTo index next) : table.Descends index next := by
  obtain ⟨entry, found, linked⟩ := edge
  have longest := sound.links found
  rw [linked] at longest
  obtain ⟨other, otherFound, ⟨less, begins⟩, _⟩ := longest
  refine ⟨?_, entry, other, found, otherFound, less⟩
  rcases Nat.lt_trichotomy next index with before | rfl | after
  · exact before
  · rw [found] at otherFound
    cases otherFound
    exact absurd less (Nat.lt_irrefl _)
  · exact absurd (sound.sorted.key_lt found otherFound after) (Text.not_lt_of_isPrefix begins)

theorem Sound.linked (sound : table.Sound direction) : table.Linked := by
  apply linked_of_rank id
  · intro index next edge
    obtain ⟨_, _, _, _, otherFound, _⟩ := sound.descends_of_linksTo edge
    exact (List.getElem?_eq_some_iff.mp otherFound).1
  · intro index next edge
    exact (sound.descends_of_linksTo edge).1

/-- The chain of links from an entry goes through all entries that stand at the beginning of it, the
longest first, and through no others. -/
theorem Sound.chain_affixes (sound : table.Sound direction) {index : Nat}
    {entries : List (Entry M ρ)} (chain : table.Chain index entries) {entry : Entry M ρ}
    (found : table[index]? = some entry) :
    (entries.Pairwise fun longer shorter => shorter.length < longer.length) ∧
      ∀ other, other ∈ entries ↔ other ∈ table ∧ other.key direction <+: entry.key direction := by
  induction chain generalizing entry with
  | @last index last lastFound unlinked =>
      rw [lastFound] at found
      cases found
      have member := List.mem_of_getElem? lastFound
      refine ⟨List.pairwise_singleton _ _, ?_⟩
      intro other
      rw [List.mem_singleton]
      constructor
      · rintro rfl
        exact ⟨member, List.prefix_refl _⟩
      · rintro ⟨otherMember, begins⟩
        have none := sound.links lastFound
        rw [unlinked] at none
        have long := begins.length_le
        rw [Entry.length_key, Entry.length_key] at long
        apply sound.sorted.eq_of_length_eq otherMember member begins (List.prefix_refl _)
        apply Nat.le_antisymm long
        apply Nat.le_of_not_lt
        intro less
        exact none other otherMember ⟨less, begins⟩
  | @link index next first others firstFound leads _ ih =>
      rw [firstFound] at found
      cases found
      have member := List.mem_of_getElem? firstFound
      have longest := sound.links firstFound
      rw [leads] at longest
      obtain ⟨second, secondFound, ⟨less, secondBegins⟩, most⟩ := longest
      obtain ⟨descending, affixes⟩ := ih secondFound
      refine ⟨List.pairwise_cons.mpr ⟨?_, descending⟩, ?_⟩
      · intro other otherMember
        have long := ((affixes other).mp otherMember).2.length_le
        rw [Entry.length_key, Entry.length_key] at long
        exact Nat.lt_of_le_of_lt long less
      · intro other
        rw [List.mem_cons, affixes other]
        constructor
        · rintro (rfl | ⟨otherMember, begins⟩)
          · exact ⟨member, List.prefix_refl _⟩
          · exact ⟨otherMember, begins.trans secondBegins⟩
        · rintro ⟨otherMember, begins⟩
          have long := begins.length_le
          rw [Entry.length_key, Entry.length_key] at long
          by_cases shorter : other.length < first.length
          · have notLonger := most other otherMember ⟨shorter, begins⟩
            exact .inr ⟨otherMember, List.prefix_of_prefix_length_le begins secondBegins
              (by rw [Entry.length_key, Entry.length_key]; exact notLonger)⟩
          · exact .inl (sound.sorted.eq_of_length_eq otherMember member begins
              (List.prefix_refl _) (by omega))

/-- Of the chain that starts at the entry that a search finds, the entries with no more letters than
are shared are the ones with which the text begins. -/
theorem Sound.filter_chain_eq_matching (sound : table.Sound direction) {text : List Char}
    {found : Candidate} (nearest : table.Nearest direction text found)
    {entries : List (Entry M ρ)} (chain : table.Chain found.index entries)
    {start : Entry M ρ} (atStart : table[found.index]? = some start) :
    (entries.filter fun entry => entry.length ≤ found.shared) =
      table.matching direction text := by
  obtain ⟨descending, affixes⟩ := sound.chain_affixes chain atStart
  apply eq_of_mem_iff (descending.filter _) (sound.sorted.matching_descending text)
  intro entry
  rw [List.mem_filter, decide_eq_true_eq, affixes entry, mem_matching, and_assoc,
    ← entry.length_key direction]
  apply and_congr_right
  intro member
  cases nearest with
  | @reached index last atIndex notBelow beyond =>
      rw [atIndex] at atStart
      cases atStart
      constructor
      · rintro ⟨begins, short⟩
        exact Text.isPrefix_of_isPrefix_of_le begins short
      · intro begins
        -- an entry with which the text begins is not above the text, so not after the one found
        have notAbove : ¬ start.key direction < entry.key direction := by
          intro less
          obtain ⟨place, atPlace⟩ := List.mem_iff_getElem?.mp member
          apply Text.not_lt_of_isPrefix begins
          apply beyond _ atPlace
          rcases Nat.lt_trichotomy index place with before | same | after
          · exact before
          · subst same
            rw [atIndex] at atPlace
            cases atPlace
            exact absurd less (List.lt_irrefl _)
          · exact absurd (sound.sorted.key_lt atPlace atIndex after) (List.lt_asymm less)
        have inner := Text.isPrefix_of_between begins notAbove notBelow
        exact ⟨inner, Text.length_le_commonLength begins inner⟩
  | below all =>
      constructor
      · rintro ⟨_, empty⟩
        have above := all entry member
        rw [List.eq_nil_of_length_eq_zero (Nat.le_zero.mp empty)] at above
        exact absurd above (List.not_lt_nil _)
      · intro begins
        exact absurd (all entry member) (Text.not_lt_of_isPrefix begins)

theorem find_of_search {table : RuleTable Scan ρ} {s : ScanState} {found : Candidate}
    (nonempty : 0 < table.length) (searched : table.search s direction = .ok found) :
    table.find direction s = (table.walk direction s.cursor found.shared
      (table.length + chainLimit) found.index : Scan (Option ρ)) s := by
  have notEmpty : table.isEmpty = false := by
    cases table with
    | nil => simp at nonempty
    | cons => rfl
  have candidate : Scan.search table direction s = .returned found s := by
    simp only [Scan.search, searched]
  rw [find, if_neg (by simp [notEmpty])]
  change (Scan.search table direction >>= _) s = _
  rw [Scan.bind_of_returned candidate]

/-- What a search does in a table whose links are in order, whether the table is sorted or not: it
tries the entries of the chain that starts at its candidate. -/
theorem Linked.find_eq {table : RuleTable Scan ρ} {s : ScanState} (linked : table.Linked)
    (direction : Direction) (ordered : s.WindowInOrder) (nonempty : 0 < table.length) :
    ∃ found entries, table.search s direction = .ok found ∧ table.Chain found.index entries ∧
      entries.length ≤ table.length ∧ found.shared ≤ (s.ahead direction).length ∧
      table.find direction s = tryInTurn direction s.cursor
        (entries.filter fun entry => entry.length ≤ found.shared) s := by
  obtain ⟨found, searched, inside, bounded⟩ := search_bounded direction ordered nonempty
  obtain ⟨entries, chain, few⟩ := linked.exists_chain inside
  refine ⟨found, entries, searched, chain, few, bounded, ?_⟩
  have fits : direction = .backward → found.shared ≤ s.cursor := by
    rintro rfl
    rw [ordered.length_ahead_backward] at bounded
    omega
  rw [find_of_search nonempty searched,
    walk_eq_tryInTurn (table.length + chainLimit) chain (by omega) fits]

/-- Without side conditions, the first entry of the chain that has no more letters than are shared
is taken. -/
theorem Linked.find_of_plain {table : RuleTable Scan ρ} {s : ScanState} (linked : table.Linked)
    (direction : Direction) (ordered : s.WindowInOrder)
    (plain : ∀ entry ∈ table, entry.condition = none) (nonempty : 0 < table.length) :
    ∃ found entries, table.search s direction = .ok found ∧ table.Chain found.index entries ∧
      ((entries.find? fun entry => entry.length ≤ found.shared) = none →
        table.find direction s = .returned none s) ∧
      ∀ entry, (entries.find? fun entry => entry.length ≤ found.shared) = some entry →
        ∃ far, s.Spans direction s.cursor far entry.length ∧
          table.find direction s =
            .returned (some entry.result) (s.covering direction s.cursor far) := by
  obtain ⟨found, entries, searched, chain, _, bounded, tried⟩ :=
    linked.find_eq direction ordered nonempty
  rw [tryInTurn_of_plain _ _ fun entry member =>
    plain entry (chain.subset (List.mem_of_mem_filter member)), List.head?_filter] at tried
  refine ⟨found, entries, searched, chain, ?_, ?_⟩
  · intro unmatched
    rw [tried, unmatched]
  · intro entry first
    have short := List.find?_some first
    rw [decide_eq_true_eq] at short
    refine ⟨_, ordered.spans_farEnd direction (Nat.le_trans short bounded), ?_⟩
    rw [tried, first]

theorem Sound.find_eq {table : RuleTable Scan ρ} {s : ScanState} (sound : table.Sound direction)
    (ordered : s.WindowInOrder) :
    table.find direction s =
      tryInTurn direction s.cursor (table.matching direction (s.ahead direction)) s := by
  by_cases nonempty : 0 < table.length
  · obtain ⟨found, entries, searched, chain, _, _, tried⟩ :=
      sound.linked.find_eq direction ordered nonempty
    obtain ⟨candidate, same, nearest⟩ := sound.sorted.search_nearest ordered nonempty
    rw [searched] at same
    cases same
    obtain ⟨start, atStart⟩ : ∃ start, table[found.index]? = some start := by
      cases chain with
      | last atStart _ => exact ⟨_, atStart⟩
      | link atStart _ _ => exact ⟨_, atStart⟩
    rw [tried, sound.filter_chain_eq_matching nearest chain atStart]
  · have empty : table = [] := List.eq_nil_of_length_eq_zero (by omega)
    subst empty
    rfl

/-- In a table that passes its check, the search is a plain search for the longest match: the
entries with which the text ahead begins are tried once each, a longer one before a shorter one, and
nothing that is shorter than the accepted entry is looked at. -/
theorem find_tries_longest_first (table : RuleTable Scan ρ) (direction : Direction)
    (s : ScanState) (passed : table.violation? direction = none) (ordered : s.WindowInOrder) :
    (∀ entry, entry ∈ table.matching direction (s.ahead direction) ↔
      entry ∈ table ∧ direction.reading entry.pattern <+: s.ahead direction) ∧
    ((table.matching direction (s.ahead direction)).Pairwise fun longer shorter =>
      shorter.length < longer.length) ∧
    table.find direction s =
      tryInTurn direction s.cursor (table.matching direction (s.ahead direction)) s ∧
    ∀ value after, table.find direction s = .returned (some value) after →
      ∃ rejected accepted shorter,
        table.matching direction (s.ahead direction) = rejected ++ accepted :: shorter ∧
        accepted.result = value ∧
        ∀ others, tryInTurn direction s.cursor (rejected ++ accepted :: others) s =
          .returned (some value) after := by
  have sound := sound_of_violation?_eq_none passed
  refine ⟨fun _ => mem_matching, sound.sorted.matching_descending _, sound.find_eq ordered, ?_⟩
  intro value after found
  rw [sound.find_eq ordered] at found
  exact tryInTurn_accepted _ found

/-- Two entries stand before the cursor, and two behind it. The longer one inserts a letter and is
not accepted. -/
theorem find_tries_longest_first_hes :
    (RuleTable.violation? ([⟨['s'], none, 1, none⟩,
        ⟨['e', 's'], some 0, 2, some (do Scan.insert 0 ['x']; return false)⟩] :
          RuleTable Scan Nat) .backward = none ∧
      (⟨['h', 'e', 's'], 3, 0, 3, 0, 3, [], .backward⟩ : ScanState).WindowInOrder ∧
      RuleTable.find ([⟨['s'], none, 1, none⟩,
        ⟨['e', 's'], some 0, 2, some (do Scan.insert 0 ['x']; return false)⟩] :
          RuleTable Scan Nat) .backward ⟨['h', 'e', 's'], 3, 0, 3, 0, 3, [], .backward⟩ =
        .returned (some 1) ⟨['x', 'h', 'e', 's'], 2, 1, 4, 2, 3, [], .backward⟩) ∧
    RuleTable.violation? ([⟨['h'], none, 1, none⟩,
      ⟨['h', 'e'], some 0, 2, some (do Scan.insert 4 ['x']; return false)⟩] :
        RuleTable Scan Nat) .forward = none ∧
    (⟨['a', 'h', 'e', 's'], 1, 0, 4, 0, 0, [], .forward⟩ : ScanState).WindowInOrder ∧
    RuleTable.find ([⟨['h'], none, 1, none⟩,
      ⟨['h', 'e'], some 0, 2, some (do Scan.insert 4 ['x']; return false)⟩] :
        RuleTable Scan Nat) .forward ⟨['a', 'h', 'e', 's'], 1, 0, 4, 0, 0, [], .forward⟩ =
      .returned (some 1) ⟨['a', 'h', 'e', 's', 'x'], 2, 0, 5, 1, 2, [], .forward⟩ := by
  refine ⟨⟨by decide, by decide, ?_⟩, by decide, by decide, ?_⟩
  · rw [(find_tries_longest_first _ _ _ (by decide) (by decide)).2.2.1]
    rfl
  · rw [(find_tries_longest_first _ _ _ (by decide) (by decide)).2.2.1]
    rfl

end RuleTable

end Stemming
