import Stemming.Proofs.Mirror.Moves

set_option autoImplicit false

namespace Stemming

section

variable {M : Type → Type} {ρ : Type}

/-- The entry with its pattern turned round. -/
def Entry.mirrored (entry : Entry M ρ) : Entry M ρ :=
  { entry with pattern := entry.pattern.reverse }

def RuleTable.mirrored (table : RuleTable M ρ) : RuleTable M ρ :=
  table.map Entry.mirrored

@[simp] theorem Entry.length_mirrored (entry : Entry M ρ) :
    entry.mirrored.length = entry.length :=
  List.length_reverse

end

namespace ScanState

variable {s : ScanState}

/-- The letter at a distance behind the cursor is the one at this distance after it in the mirror
image, in the window and out of it. -/
theorem letterAway_mirrored (ordered : s.WindowInOrder) (distance : Nat) :
    s.mirrored.letterAway .forward distance = s.letterAway .backward distance := by
  have fits : s.windowEnd ≤ s.letters.length := ordered.end_le_length
  have above := ordered.start_le_cursor
  have below := ordered.cursor_le_end
  have atEnd : s.letters.length - s.cursor + distance = s.letters.length - s.windowStart ↔
      s.cursor = s.windowStart + distance := by omega
  have found : s.letters.reverse[s.letters.length - s.cursor + distance]? =
      if s.cursor ≤ distance then none else s.letters[s.cursor - (distance + 1)]? := by
    split
    · exact List.getElem?_eq_none (by rw [List.length_reverse]; omega)
    · rw [List.getElem?_reverse (by omega)]
      congr 1
      omega
  simp only [letterAway, mirrored, atEnd, found]
  by_cases reached : s.cursor = s.windowStart + distance
  · simp only [reached, ↓reduceIte]
  · by_cases beyond : s.cursor ≤ distance
    · simp only [reached, beyond, ↓reduceIte]
    · simp only [reached, beyond, ↓reduceIte]

theorem Ordered.mirrorImages_covering {markCount : Nat} (ordered : s.Ordered markCount)
    {count : Nat} (room : count ≤ (s.ahead .backward).length) :
    (s.covering .backward s.cursor (farEnd .backward s.cursor count)).MirrorImages
      (s.mirrored.covering .forward s.mirrored.cursor
        (farEnd .forward s.mirrored.cursor count)) := by
  have width := ordered.length_ahead_backward
  have inWord := ordered.cursor_le_length
  have far : s.length - s.cursor + count = s.length - (s.cursor - count) := by omega
  have covered : s.mirrored.covering .forward s.mirrored.cursor
      (farEnd .forward s.mirrored.cursor count) =
      (s.covering .backward s.cursor (farEnd .backward s.cursor count)).mirrored := by
    simp only [covering, farEnd, mirrored, far]
  have spans := ordered.spans_farEnd .backward room
  have follows : s.Follows markCount false
      (s.covering .backward s.cursor (farEnd .backward s.cursor count)) :=
    ordered.follows_repointed (repointed_covering .backward _ _)
      (spans.covering_inOrder ordered.toWindowInOrder) spans.covering_slice.1
      spans.covering_slice.2
  rw [covered]
  exact follows.ordered.mirrorImages

theorem compareFrom_mirrored (ordered : s.WindowInOrder) (rest : List Char) (shared : Nat) :
    s.mirrored.compareFrom .forward shared rest = s.compareFrom .backward shared rest := by
  induction rest generalizing shared with
  | nil => rfl
  | cons wanted rest ih => simp only [compareFrom, letterAway_mirrored ordered, ih]

theorem compare_mirrored (ordered : s.WindowInOrder) (shared : Nat) (pattern : List Char) :
    s.mirrored.compare .forward shared pattern.reverse = s.compare .backward shared pattern :=
  compareFrom_mirrored ordered _ shared

end ScanState

namespace RuleTable

section

variable {M : Type → Type} {ρ : Type} {s : ScanState}

theorem getElem?_mirrored (table : RuleTable M ρ) (index : Nat) :
    table.mirrored[index]? = table[index]?.map Entry.mirrored :=
  List.getElem?_map

theorem length_mirrored (table : RuleTable M ρ) : table.mirrored.length = table.length :=
  List.length_map _

/-- The interval shrinks in the mirror as it does in the original, step by step. -/
theorem narrowTo_mirrored (table : RuleTable M ρ) (ordered : s.WindowInOrder) (fuel : Nat)
    (lower upper : Candidate) :
    table.mirrored.narrowTo s.mirrored .forward fuel lower upper =
      table.narrowTo s .backward fuel lower upper := by
  induction fuel generalizing lower upper with
  | zero => simp only [narrowTo]
  | succ fuel ih =>
      simp only [narrowTo, getElem?_mirrored]
      cases table[lower.index + (upper.index - lower.index) / 2]? with
      | none => rfl
      | some entry =>
          simp only [Option.map_some, Entry.mirrored, ScanState.compare_mirrored ordered, ih]

theorem search_mirrored (table : RuleTable M ρ) (ordered : s.WindowInOrder) :
    table.mirrored.search s.mirrored .forward = table.search s .backward := by
  simp only [search, length_mirrored, narrowTo_mirrored table ordered, getElem?_mirrored]
  cases table[0]? with
  | none => rfl
  | some entry => simp only [Option.map_some, Entry.mirrored, ScanState.compare_mirrored ordered]

theorem firstUnordered?_mirrored (table : RuleTable M ρ) :
    table.mirrored.firstUnordered? .forward = table.firstUnordered? .backward := by
  rw [firstUnordered?, mirrored, ← List.map_tail, List.zip_map, List.findIdx?_map]
  rfl

theorem longestAffix?_mirrored (table : RuleTable M ρ) (pattern : List Char) :
    table.mirrored.longestAffix? .forward pattern.reverse =
      table.longestAffix? .backward pattern := by
  simp only [longestAffix?, mirrored, List.zipIdx_map, List.filter_map, List.foldl_map,
    Function.comp_def, Prod.map_fst, Prod.map_snd, id_eq, Entry.length_mirrored,
    List.length_reverse]
  rfl

theorem firstWrongLink?_mirrored (table : RuleTable M ρ) :
    table.mirrored.firstWrongLink? .forward = table.firstWrongLink? .backward := by
  rw [firstWrongLink?, mirrored, List.findIdx?_map]
  congr 1
  funext entry
  show (entry.link != table.mirrored.longestAffix? .forward entry.pattern.reverse) = _
  rw [longestAffix?_mirrored]

theorem violation?_mirrored (table : RuleTable M ρ) :
    table.mirrored.violation? .forward = table.violation? .backward := by
  rw [violation?, violation?, firstUnordered?_mirrored, firstWrongLink?_mirrored]

end

section

variable {ρ : Type} {table : RuleTable Scan ρ} {markCount : Nat} {s : ScanState}

theorem Chain.mirrored {index : Nat} {entries : List (Entry Scan ρ)}
    (chain : table.Chain index entries) :
    table.mirrored.Chain index (entries.map Entry.mirrored) := by
  have image {index : Nat} {entry : Entry Scan ρ} (found : table[index]? = some entry) :
      table.mirrored[index]? = some entry.mirrored := by
    rw [getElem?_mirrored, found, Option.map_some]
  induction chain with
  | last found unlinked => exact .last (image found) unlinked
  | link found leads _ ih => exact .link (image found) leads ih

theorem tryInTurn_mirrors (ordered : s.Ordered markCount) (entries : List (Entry Scan ρ))
    (fits : ∀ entry ∈ entries,
      entry.condition = none ∧ entry.length ≤ (s.ahead .backward).length) :
    Outcome.Mirrors id (tryInTurn .backward s.cursor entries s)
      (tryInTurn .forward s.mirrored.cursor (entries.map Entry.mirrored) s.mirrored) := by
  have plain : ∀ entry ∈ entries.map Entry.mirrored, entry.condition = none := by
    intro entry member
    obtain ⟨original, among, rfl⟩ := List.mem_map.mp member
    exact (fits original among).1
  rw [tryInTurn_of_plain _ _ fun entry member => (fits entry member).1,
    tryInTurn_of_plain _ _ plain, List.head?_map]
  cases first : entries.head? with
  | none => exact .returned none ordered.mirrorImages
  | some entry =>
      have room := (fits entry (List.mem_of_mem_head? first)).2
      simp only [Option.map_some, Entry.length_mirrored]
      exact .returned (some entry.result) (ordered.mirrorImages_covering room)

/-- The walks in the original and in the mirror take the first entry of one chain that is short
enough. -/
theorem find_mirrors (plain : ∀ entry ∈ table, entry.condition = none) (linked : table.Linked)
    (ordered : s.Ordered markCount) :
    Outcome.Mirrors id (table.find .backward s) (table.mirrored.find .forward s.mirrored) := by
  by_cases nonempty : 0 < table.length
  · obtain ⟨found, entries, searched, chain, few, bounded, ran⟩ :=
      linked.find_eq .backward ordered.toWindowInOrder nonempty
    have image : table.mirrored.search s.mirrored .forward = .ok found := by
      rw [search_mirrored table ordered.toWindowInOrder, searched]
    -- The mirrored chain is as long as this one, so the second walk ends as well.
    have imageRan : table.mirrored.find .forward s.mirrored =
        tryInTurn .forward s.mirrored.cursor
          ((entries.filter fun entry => entry.length ≤ found.shared).map Entry.mirrored)
          s.mirrored := by
      rw [find_of_search (by rwa [length_mirrored]) image,
        walk_eq_tryInTurn _ chain.mirrored (by rw [List.length_map, length_mirrored]; omega)
          (by simp), List.filter_map]
      simp only [Function.comp_def, Entry.length_mirrored]
    rw [ran, imageRan]
    apply tryInTurn_mirrors ordered
    intro entry member
    obtain ⟨onChain, short⟩ := List.mem_filter.mp member
    exact ⟨plain entry (chain.subset onChain), Nat.le_trans (of_decide_eq_true short) bounded⟩
  · have empty : table = [] := List.eq_nil_of_length_eq_zero (by omega)
    subst empty
    exact .returned none ordered.mirrorImages

end

end RuleTable

/-- Scanning backward is scanning forward in the mirror: each scan gives the same there, with text
and patterns turned round, and both end in mirror images; to a mark that is not there neither
narrows. A table has the same flaws in the mirror. -/
theorem backward_mirrors_forward (s : ScanState) (ordered : s.Ordered s.marks.length)
    (count : Nat) (text : List Char) (set : LetterSet) (membership : Membership) :
    (Scan.peek .backward s).Mirrors id (Scan.peek .forward s.mirrored) ∧
    (Scan.hop .backward count s).Mirrors id (Scan.hop .forward count s.mirrored) ∧
    (Scan.step .backward s).Mirrors id (Scan.step .forward s.mirrored) ∧
    (Scan.literal .backward text s).Mirrors id
      (Scan.literal .forward text.reverse s.mirrored) ∧
    (Scan.test set .backward membership s).Mirrors id
      (Scan.test set .forward membership s.mirrored) ∧
    (Scan.seek set .backward membership s).Mirrors id
      (Scan.seek set .forward membership s.mirrored) ∧
    (Scan.seekPast set .backward membership s).Mirrors id
      (Scan.seekPast set .forward membership s.mirrored) ∧
    (∀ mark : Mark, mark.index < s.marks.length →
      (Scan.narrow mark .backward s).Mirrors (Option.map (Bound.mirrored s.length))
        (Scan.narrow mark .forward s.mirrored)) ∧
    (∀ mark : Mark, s.marks.length ≤ mark.index →
      Scan.narrow mark .backward s = .trapped .noSuchMark ∧
      Scan.narrow mark .forward s.mirrored = .trapped .noSuchMark) ∧
    (∀ {ρ : Type} (table : RuleTable Scan ρ), (∀ entry ∈ table, entry.condition = none) →
      table.Linked →
      Outcome.Mirrors id (table.find .backward s) (table.mirrored.find .forward s.mirrored)) ∧
    ∀ {M : Type → Type} {ρ : Type} (table : RuleTable M ρ),
      table.mirrored.violation? .forward = table.violation? .backward :=
  ⟨Scan.peek_mirrors ordered, Scan.hop_mirrors ordered count, Scan.hop_mirrors ordered 1,
    Scan.literal_mirrors ordered text, Scan.test_mirrors set membership ordered,
    Scan.seek_mirrors set membership ordered, Scan.seekPast_mirrors set membership ordered,
    fun _ known => Scan.narrow_mirrors ordered known,
    fun _ absent => Scan.narrow_absent_mirrors absent,
    fun _ plain linked => RuleTable.find_mirrors plain linked ordered,
    fun table => table.violation?_mirrored⟩

/-- A window inside the word, a slice out of order, and a table that is not sorted. -/
theorem backward_mirrors_forward_abcba :
    (⟨['a', 'b', 'c', 'b', 'a'], 3, 1, 4, 5, 2, [2, 5], .backward⟩ : ScanState).Ordered 2 ∧
    Outcome.Mirrors (Option.map (Bound.mirrored 5))
      (.returned (some ⟨.backward, 1⟩)
        ⟨['a', 'b', 'c', 'b', 'a'], 3, 2, 4, 5, 2, [2, 5], .backward⟩)
      (.returned (some ⟨.forward, 4⟩)
        ⟨['a', 'b', 'c', 'b', 'a'], 2, 1, 3, 3, 0, [3, 0], .backward⟩) ∧
    Outcome.Mirrors id
      (.returned (some 2) ⟨['a', 'b', 'c', 'b', 'a'], 1, 1, 4, 1, 3, [2, 5], .backward⟩)
      (RuleTable.find ([⟨['c'], none, 0, none⟩, ⟨['a'], none, 1, none⟩,
        ⟨['c', 'b'], none, 2, none⟩] : RuleTable Scan Nat) .forward
        (⟨['a', 'b', 'c', 'b', 'a'], 2, 1, 4, 3, 0, [3, 0], .backward⟩ : ScanState)) := by
  have ordered : (⟨['a', 'b', 'c', 'b', 'a'], 3, 1, 4, 5, 2, [2, 5], .backward⟩ :
      ScanState).Ordered 2 :=
    ⟨⟨⟨by decide, by decide, by decide⟩, by decide⟩, by decide, by decide, rfl⟩
  have unlinked {index next : Nat} : ¬ RuleTable.LinksTo ([⟨['c'], none, 0, none⟩,
      ⟨['a'], none, 1, none⟩, ⟨['b', 'c'], none, 2, none⟩] : RuleTable Scan Nat) index next := by
    rintro ⟨entry, found, leads⟩
    have member := List.mem_of_getElem? found
    simp only [List.mem_cons, List.not_mem_nil, or_false] at member
    rcases member with rfl | rfl | rfl <;> cases leads
  obtain ⟨_, _, _, _, _, _, _, narrows, _, finds, _⟩ := backward_mirrors_forward
    ⟨['a', 'b', 'c', 'b', 'a'], 3, 1, 4, 5, 2, [2, 5], .backward⟩ ordered 0 []
    ⟨97, 122, [1], by decide⟩ .inside
  refine ⟨ordered, narrows ⟨0⟩ (by decide), ?_⟩
  exact finds ([⟨['c'], none, 0, none⟩, ⟨['a'], none, 1, none⟩,
    ⟨['b', 'c'], none, 2, none⟩] : RuleTable Scan Nat) (by simp)
    ⟨fun edge => absurd edge unlinked, fun _ round => by
      cases round with
      | single edge => exact unlinked edge
      | tail _ edge => exact unlinked edge⟩

end Stemming
