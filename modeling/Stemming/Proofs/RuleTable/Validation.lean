import Stemming.Proofs.RuleTable.LongestMatch
import Stemming.Proofs.Text.Places

set_option autoImplicit false

namespace Stemming

namespace RuleTable

variable {M : Type → Type} {ρ : Type} {table : RuleTable M ρ} {direction : Direction}

/-- The entry is not above the one before it. -/
def OutOfOrder (table : RuleTable M ρ) (direction : Direction) (index : Nat) : Prop :=
  ∃ before lower upper, index = before + 1 ∧ table[before]? = some lower ∧
    table[index]? = some upper ∧ ¬ direction.Precedes lower.pattern upper.pattern

/-- The link of the entry is not to its longest affix in the table. -/
def Mislinked (table : RuleTable M ρ) (direction : Direction) (index : Nat) : Prop :=
  ∃ entry, table[index]? = some entry ∧ ¬ table.LongestAffix direction entry.pattern entry.link

section Order

theorem Sorted.not_outOfOrder (sorted : table.Sorted direction) (index : Nat) :
    ¬ table.OutOfOrder direction index := by
  rintro ⟨before, lower, upper, rfl, atLower, atUpper, notAbove⟩
  exact notAbove (sorted.key_lt atLower atUpper (Nat.lt_succ_self before))

theorem isLeast_of_firstUnordered? {index : Nat}
    (found : table.firstUnordered? direction = some index) :
    IsLeast {index | table.OutOfOrder direction index} index := by
  rw [firstUnordered?] at found
  obtain ⟨before, first, rfl⟩ := Option.map_eq_some_iff.mp found
  obtain ⟨⟨pair, pairFound, notAbove⟩, least⟩ := isLeast_of_findIdx?_eq_some first
  obtain ⟨atLower, atUpper⟩ := List.getElem?_zip_eq_some.mp pairFound
  rw [List.getElem?_tail] at atUpper
  refine ⟨⟨before, pair.1, pair.2, rfl, atLower, atUpper, of_decide_eq_true notAbove⟩, ?_⟩
  rintro other ⟨earlier, lower, upper, rfl, atEarlier, atOther, unordered⟩
  apply Nat.succ_le_succ
  apply least
  refine ⟨(lower, upper), List.getElem?_zip_eq_some.mpr ⟨atEarlier, ?_⟩, decide_eq_true unordered⟩
  rw [List.getElem?_tail]
  exact atOther

theorem Sorted.firstUnordered?_eq_none (sorted : table.Sorted direction) :
    table.firstUnordered? direction = none := by
  cases found : table.firstUnordered? direction with
  | none => rfl
  | some index => exact absurd (isLeast_of_firstUnordered? found).1 (sorted.not_outOfOrder index)

end Order

section Links

theorem Sorted.longestAffix_unique (sorted : table.Sorted direction) {pattern : List Char}
    {link other : Option Nat} (longest : table.LongestAffix direction pattern link)
    (otherLongest : table.LongestAffix direction pattern other) : link = other := by
  cases link with
  | none =>
      cases other with
      | none => rfl
      | some place =>
          obtain ⟨entry, found, affix, _⟩ := otherLongest
          exact absurd affix (longest entry (List.mem_of_getElem? found))
  | some index =>
      obtain ⟨entry, found, affix, most⟩ := longest
      cases other with
      | none => exact absurd affix (otherLongest entry (List.mem_of_getElem? found))
      | some place =>
          obtain ⟨second, secondFound, secondAffix, secondMost⟩ := otherLongest
          have member := List.mem_of_getElem? found
          have secondMember := List.mem_of_getElem? secondFound
          have same : entry = second := sorted.eq_of_length_eq member secondMember affix.2
            secondAffix.2 (Nat.le_antisymm (secondMost entry member affix)
              (most second secondMember secondAffix))
          subst same
          rw [sorted.index_eq_of_pattern_eq found secondFound rfl]

theorem Sorted.longestAffix_iff (sorted : table.Sorted direction) {pattern : List Char}
    {link : Option Nat} :
    table.LongestAffix direction pattern link ↔ link = table.longestAffix? direction pattern := by
  constructor
  · intro longest
    exact sorted.longestAffix_unique longest (longestAffix?_longest pattern)
  · rintro rfl
    exact longestAffix?_longest pattern

theorem Sorted.isLeast_of_firstWrongLink? (sorted : table.Sorted direction) {index : Nat}
    (found : table.firstWrongLink? direction = some index) :
    IsLeast {index | table.Mislinked direction index} index := by
  have differs (place : Nat) : table.Mislinked direction place ↔ ∃ entry,
      table[place]? = some entry ∧
        (entry.link != table.longestAffix? direction entry.pattern) = true := by
    simp only [Mislinked, sorted.longestAffix_iff, bne_iff_ne, ne_eq]
  obtain ⟨wrong, least⟩ := isLeast_of_findIdx?_eq_some found
  exact ⟨(differs index).mpr wrong, fun _ other => least ((differs _).mp other)⟩

theorem Sound.not_mislinked (sound : table.Sound direction) (index : Nat) :
    ¬ table.Mislinked direction index := by
  rintro ⟨entry, found, wrong⟩
  exact wrong (sound.links found)

theorem Sound.firstWrongLink?_eq_none (sound : table.Sound direction) :
    table.firstWrongLink? direction = none := by
  cases found : table.firstWrongLink? direction with
  | none => rfl
  | some index =>
      exact absurd (sound.sorted.isLeast_of_firstWrongLink? found).1 (sound.not_mislinked index)

end Links

theorem violation?_eq_none_iff_sound :
    table.violation? direction = none ↔ table.Sound direction := by
  constructor
  · exact sound_of_violation?_eq_none
  · intro sound
    rw [violation?, sound.sorted.firstUnordered?_eq_none]
    simp only [sound.firstWrongLink?_eq_none, Option.map_none]

section Trails

/-- The entries to which the links lead from one entry on, that entry first; the last has no
link. -/
structure Trail (table : RuleTable M ρ) (index : Nat) (trail : List Nat) : Prop where
  starts : trail.head? = some index
  follows : trail.IsChain table.LinksTo
  ends : ∀ last ∈ trail.getLast?, ∀ next, ¬ table.LinksTo last next

/-- The pattern of one entry is an affix of that of another, or the same. -/
def AffixOf (table : RuleTable M ρ) (direction : Direction) (place index : Nat) : Prop :=
  ∃ other entry, table[place]? = some other ∧ table[index]? = some entry ∧
    other.key direction <+: entry.key direction

theorem Chain.exists_trail {index : Nat} {entries : List (Entry M ρ)}
    (chain : table.Chain index entries) :
    ∃ trail, table.Trail index trail ∧ trail.map (table[·]?) = entries.map some := by
  induction chain with
  | @last index entry found unlinked =>
      refine ⟨[index], ⟨rfl, .singleton index, ?_⟩, by simp [found]⟩
      rintro last atEnd next ⟨same, sameFound, leads⟩
      obtain rfl : index = last := by simpa using atEnd
      rw [found] at sameFound
      cases sameFound
      rw [unlinked] at leads
      cases leads
  | @link index next entry others found leads _ ih =>
      obtain ⟨trail, ⟨starts, follows, ends⟩, same⟩ := ih
      cases trail with
      | nil => cases starts
      | cons first rest =>
          cases starts
          exact ⟨index :: next :: rest, ⟨rfl, .cons_cons ⟨entry, found, leads⟩ follows, ends⟩,
            by rw [List.map_cons, same, found, List.map_cons]⟩

/-- From each entry of a sound table the links lead down through all its affixes. -/
theorem Sound.exists_trail (sound : table.Sound direction) {index : Nat}
    (inside : index < table.length) :
    ∃ trail, table.Trail index trail ∧ trail.Pairwise table.Descends ∧
      ∀ place, place ∈ trail ↔ table.AffixOf direction place index := by
  have found : table[index]? = some table[index] := List.getElem?_eq_getElem inside
  obtain ⟨entries, chain, -⟩ := sound.linked.exists_chain inside
  obtain ⟨-, affixes⟩ := sound.chain_affixes chain found
  obtain ⟨trail, leads, same⟩ := chain.exists_trail
  have : Trans table.Descends table.Descends table.Descends := ⟨Descends.trans⟩
  have descends := leads.follows.imp fun _ _ edge => sound.descends_of_linksTo edge
  refine ⟨trail, leads, descends.pairwise, ?_⟩
  intro place
  constructor
  · intro member
    have among : table[place]? ∈ entries.map some := same ▸ List.mem_map_of_mem member
    obtain ⟨other, onChain, otherFound⟩ := List.mem_map.mp among
    exact ⟨other, table[index], otherFound.symm, found, ((affixes other).mp onChain).2⟩
  · rintro ⟨other, entry, otherFound, entryFound, begins⟩
    rw [found] at entryFound
    cases entryFound
    have onChain := (affixes other).mpr ⟨List.mem_of_getElem? otherFound, begins⟩
    have among : some other ∈ trail.map (table[·]?) := same ▸ List.mem_map_of_mem onChain
    obtain ⟨visited, member, visitedFound⟩ := List.mem_map.mp among
    rw [sound.sorted.index_eq_of_pattern_eq otherFound visitedFound rfl]
    exact member

end Trails

/-- The check passes just the sound tables. From each entry of such a table the links lead down, to
an entry without a link, through the entries that are affixes of it, and through no others. Of any
other table the check reports the first entry that is not above the one before it, and if there is
none, the first that does not link to its longest affix. -/
theorem violation?_reports_first_flaw (table : RuleTable M ρ) (direction : Direction) :
    (table.violation? direction = none ↔ table.Sound direction) ∧
    (table.violation? direction = none → ∀ index < table.length,
      ∃ trail, table.Trail index trail ∧ trail.Pairwise table.Descends ∧
        ∀ place, place ∈ trail ↔ table.AffixOf direction place index) ∧
    ∀ violation, table.violation? direction = some violation →
      (∃ index, violation = .malformedTable index .unordered ∧
        IsLeast {index | table.OutOfOrder direction index} index) ∨
      (∃ index, violation = .malformedTable index .wrongLink ∧
        (∀ place, ¬ table.OutOfOrder direction place) ∧
        IsLeast {index | table.Mislinked direction index} index) := by
  refine ⟨violation?_eq_none_iff_sound, ?_, ?_⟩
  · intro passed index inside
    exact (violation?_eq_none_iff_sound.mp passed).exists_trail inside
  · intro violation reported
    rw [violation?] at reported
    cases unordered : table.firstUnordered? direction with
    | some index =>
        rw [unordered] at reported
        cases reported
        exact .inl ⟨index, rfl, isLeast_of_firstUnordered? unordered⟩
    | none =>
        have sorted := sorted_of_firstUnordered?_eq_none unordered
        rw [unordered] at reported
        obtain ⟨index, wrong, rfl⟩ := Option.map_eq_some_iff.mp reported
        exact .inr ⟨index, rfl, sorted.not_outOfOrder, sorted.isLeast_of_firstWrongLink? wrong⟩

/-- Three endings, each linked to the next shorter one; without the link of the second, that is the
first flaw, although the third links past it. -/
theorem violation?_reports_first_flaw_nes :
    (∃ trail, RuleTable.Trail ([⟨['s'], none, 1, none⟩, ⟨['e', 's'], some 0, 2, none⟩,
      ⟨['n', 'e', 's'], some 1, 3, none⟩] : RuleTable Scan Nat) 2 trail ∧ 0 ∈ trail) ∧
    IsLeast {index | RuleTable.Mislinked ([⟨['s'], none, 1, none⟩, ⟨['e', 's'], none, 2, none⟩,
      ⟨['n', 'e', 's'], some 0, 3, none⟩] : RuleTable Scan Nat) .backward index} 1 := by
  obtain ⟨-, leads, -⟩ := violation?_reports_first_flaw ([⟨['s'], none, 1, none⟩,
    ⟨['e', 's'], some 0, 2, none⟩, ⟨['n', 'e', 's'], some 1, 3, none⟩] : RuleTable Scan Nat)
    .backward
  obtain ⟨-, -, reports⟩ := violation?_reports_first_flaw ([⟨['s'], none, 1, none⟩,
    ⟨['e', 's'], none, 2, none⟩, ⟨['n', 'e', 's'], some 0, 3, none⟩] : RuleTable Scan Nat)
    .backward
  constructor
  · obtain ⟨trail, along, -, affixes⟩ := leads (by decide) 2 (by decide)
    have begins : ['s'] <+: ['s', 'e', 'n'] := by decide
    exact ⟨trail, along, (affixes 0).mpr ⟨_, _, rfl, rfl, begins⟩⟩
  · rcases reports (.malformedTable 1 .wrongLink) (by decide) with
      ⟨index, same, -⟩ | ⟨index, same, -, least⟩
    · cases same
    · cases same
      exact least

end RuleTable

end Stemming
