import Stemming.Proofs.RuleTable.LongestMatch
import Stemming.Proofs.Scan.Moves

set_option autoImplicit false

namespace Stemming

namespace ScanState

/-- The letters beside the cursor in `direction` are those of a text, and lie in the window. -/
def Spells (s : ScanState) (direction : Direction) (text : List Char) : Prop :=
  match direction with
  | .forward => s.cursor + text.length ≤ s.windowEnd ∧
      (s.letters.drop s.cursor).take text.length = text
  | .backward => s.windowStart + text.length ≤ s.cursor ∧
      (s.letters.drop (s.cursor - text.length)).take text.length = text

instance (s : ScanState) (direction : Direction) (text : List Char) :
    Decidable (s.Spells direction text) := by
  cases direction <;> exact inferInstanceAs (Decidable (_ ∧ _))

variable {s : ScanState} {direction : Direction} {text : List Char}

theorem WindowInOrder.length_le_of_spells (ordered : s.WindowInOrder)
    (spelled : s.Spells direction text) : text.length ≤ (s.ahead direction).length := by
  cases direction with
  | forward =>
      have inside := spelled.1
      rw [ordered.length_ahead_forward]
      omega
  | backward =>
      have inside := spelled.1
      rw [ordered.length_ahead_backward]
      omega

theorem WindowInOrder.spells_iff_beside (ordered : s.WindowInOrder)
    (room : text.length ≤ (s.ahead direction).length) :
    s.Spells direction text ↔ s.beside? direction text.length = some text := by
  have fits : s.windowEnd ≤ s.letters.length := ordered.end_le_length
  have below := ordered.cursor_le_end
  cases direction with
  | forward =>
      rw [ordered.length_ahead_forward] at room
      have inWord : s.cursor + text.length ≤ s.letters.length := by omega
      rw [Spells, beside?, segment?, if_pos inWord, List.drop_take, Nat.add_sub_cancel_left,
        Option.some.injEq]
      exact and_iff_right (by omega)
  | backward =>
      rw [ordered.length_ahead_backward] at room
      have above := ordered.start_le_cursor
      have inWord : s.cursor ≤ s.letters.length := Nat.le_trans below fits
      rw [Spells, beside?, segment?, if_pos inWord, List.drop_take, Nat.sub_sub_self (by omega),
        Option.some.injEq]
      exact and_iff_right (by omega)

theorem WindowInOrder.spells_iff (ordered : s.WindowInOrder) (direction : Direction)
    (text : List Char) :
    s.Spells direction text ↔ direction.reading text <+: s.ahead direction := by
  by_cases room : text.length ≤ (s.ahead direction).length
  · rw [ordered.spells_iff_beside room, Scan.beside?_eq ordered direction room, Option.some.injEq,
      Scan.reading_take_eq_iff]
  · constructor
    · intro spelled
      exact absurd (ordered.length_le_of_spells spelled) room
    · intro begins
      have short := begins.length_le
      rw [Direction.length_reading] at short
      exact absurd short room

theorem cursor_covering (near far : Nat) : (s.covering direction near far).cursor = far := by
  cases direction <;> rfl

theorem advance_eq (direction : Direction) (count : Nat) :
    s.advance direction count = { s with cursor := farEnd direction s.cursor count } := by
  cases direction <;> rfl

end ScanState

namespace RuleTable

section

variable {M : Type → Type} {ρ : Type} {entry : Entry M ρ}

/-- A table of one entry without a link passes its check: no entry is a proper affix of itself. -/
theorem sound_single (unlinked : entry.link = none) (direction : Direction) :
    Sound ([entry] : RuleTable M ρ) direction where
  sorted := List.pairwise_singleton _ _
  links := by
    intro index other found
    obtain rfl := List.mem_singleton.mp (List.mem_of_getElem? found)
    rw [unlinked]
    rintro only member ⟨shorter, _⟩
    obtain rfl := List.mem_singleton.mp member
    exact absurd shorter (Nat.lt_irrefl _)

theorem matching_single (direction : Direction) (text : List Char) :
    matching ([entry] : RuleTable M ρ) direction text =
      if entry.key direction <+: text then [entry] else [] := by
  by_cases begins : entry.key direction <+: text
  · have kept : (entry.key direction).isPrefixOf text = true :=
      List.isPrefixOf_iff_prefix.mpr begins
    rw [if_pos begins, matching, List.filter_cons, if_pos kept]
    rfl
  · have dropped : ¬ (entry.key direction).isPrefixOf text = true :=
      mt List.isPrefixOf_iff_prefix.mp begins
    rw [if_neg begins, matching, List.filter_cons, if_neg dropped]
    rfl

end

variable {ρ : Type} {s : ScanState}

theorem find_single_eq {entry : Entry Scan ρ} (unlinked : entry.link = none)
    (plain : entry.condition = none) (ordered : s.WindowInOrder) (direction : Direction) :
    find ([entry] : RuleTable Scan ρ) direction s =
      if s.Spells direction entry.pattern then
        .returned (some entry.result)
          (s.covering direction s.cursor (farEnd direction s.cursor entry.length))
      else .returned none s := by
  have begins := ordered.spells_iff direction entry.pattern
  rw [(sound_single unlinked direction).find_eq ordered, matching_single]
  by_cases spelled : s.Spells direction entry.pattern
  · rw [if_pos spelled, if_pos (begins.mp spelled)]
    exact tryInTurn_of_plain _ s (List.forall_mem_singleton.mpr plain)
  · rw [if_neg spelled, if_neg (mt begins.mpr spelled)]
    exact tryInTurn_of_plain [] s (List.forall_mem_nil _)

/-- The two ways to match a literal agree. The test for a text succeeds exactly if the search of a
table with the text as its only entry gives that entry's result, and else the search gives none.
They do so exactly if the window holds as many letters in that direction as the text has, and these
letters spell it. Whatever comes out, both leave the cursor at the same place, and the test changes
nothing else. -/
theorem literal_agrees_with_find (s : ScanState) (direction : Direction) (text : List Char)
    (result : ρ) (ordered : s.WindowInOrder) :
    ∃ matched found after,
      Scan.literal direction text s = .returned matched { s with cursor := after.cursor } ∧
      find ([⟨text, none, result, none⟩] : RuleTable Scan ρ) direction s =
        .returned found after ∧
      (matched = true ↔ found = some result) ∧ (matched = false ↔ found = none) ∧
      (matched = true ↔ s.Spells direction text) := by
  have begins := ordered.spells_iff direction text
  have tested := Scan.literal_eq ordered direction text
  have searched : find ([⟨text, none, result, none⟩] : RuleTable Scan ρ) direction s =
      if s.Spells direction text then
        .returned (some result)
          (s.covering direction s.cursor (farEnd direction s.cursor text.length))
      else .returned none s := find_single_eq rfl rfl ordered direction
  by_cases spelled : s.Spells direction text
  · rw [if_pos (begins.mp spelled), ScanState.advance_eq] at tested
    rw [if_pos spelled] at searched
    refine ⟨true, some result, _, ?_, searched, ?_, ?_, ?_⟩
    · rw [tested, ScanState.cursor_covering]
    · exact iff_of_true rfl rfl
    · exact iff_of_false nofun nofun
    · exact iff_of_true rfl spelled
  · rw [if_neg (mt begins.mpr spelled)] at tested
    rw [if_neg spelled] at searched
    refine ⟨false, none, s, tested, searched, ?_, ?_, ?_⟩
    · exact iff_of_false nofun nofun
    · exact iff_of_true rfl rfl
    · exact iff_of_false nofun spelled

/-- The end of `kaldt`, with the window on its last two letters. -/
def pairAtEnd : ScanState :=
  ⟨['k', 'a', 'l', 'd', 't'], 5, 3, 5, 0, 5, [], .backward⟩

/-- A literal that reaches just to the start of the window, and one that the word spells but that
begins before the window. -/
theorem literal_agrees_with_find_kaldt :
    pairAtEnd.WindowInOrder ∧
    (∃ after : ScanState,
      Scan.literal .backward ['d', 't'] pairAtEnd =
        .returned true { pairAtEnd with cursor := after.cursor } ∧
      find ([⟨['d', 't'], none, 7, none⟩] : RuleTable Scan Nat) .backward pairAtEnd =
        .returned (some 7) after) ∧
    ∃ after : ScanState,
      Scan.literal .backward ['l', 'd', 't'] pairAtEnd =
        .returned false { pairAtEnd with cursor := after.cursor } ∧
      find ([⟨['l', 'd', 't'], none, 7, none⟩] : RuleTable Scan Nat) .backward pairAtEnd =
        .returned none after := by
  have ordered : pairAtEnd.WindowInOrder := by decide
  refine ⟨ordered, ?_, ?_⟩
  · obtain ⟨_, _, after, tested, searched, agree, _, spells⟩ :=
      literal_agrees_with_find pairAtEnd .backward ['d', 't'] 7 ordered
    obtain rfl := spells.mpr (by decide)
    obtain rfl := agree.mp rfl
    exact ⟨after, tested, searched⟩
  · obtain ⟨_, _, after, tested, searched, _, fails, spells⟩ :=
      literal_agrees_with_find pairAtEnd .backward ['l', 'd', 't'] 7 ordered
    obtain rfl := Bool.eq_false_of_not_eq_true (mt spells.mp (by decide))
    obtain rfl := fails.mp rfl
    exact ⟨after, tested, searched⟩

end RuleTable

end Stemming
