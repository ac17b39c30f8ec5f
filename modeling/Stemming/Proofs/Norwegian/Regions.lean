import Stemming.Norwegian.Stages
import Stemming.Proofs.Norwegian.Rules
import Stemming.Proofs.Scan.Moves
import Stemming.Proofs.Scan.Region
import Stemming.Proofs.Text.Places

set_option autoImplicit false

namespace Stemming.Norwegian

variable {s : ScanState}

theorem markEarliestStart_eq (ordered : s.WindowInOrder) (marked : 2 ≤ s.marks.length) :
    markEarliestStart s =
      if 3 ≤ (s.ahead .forward).length then
        .returned true { s with marks := s.marks.set 1 (s.cursor + 3) }
      else .returned false s := by
  have fits : s.windowEnd ≤ s.letters.length := ordered.end_le_length
  have room := ordered.length_ahead_forward
  have hopped := Scan.hop_eq ordered .forward 3
  unfold markEarliestStart
  by_cases long : 3 ≤ (s.ahead .forward).length
  · rw [if_pos long] at hopped ⊢
    have placed : Scan.setMark earliestStart (s.cursor + 3) (s.advance .forward 3) =
        .returned () { s with cursor := s.cursor + 3, marks := s.marks.set 1 (s.cursor + 3) } := by
      apply Scan.setMark_eq
      · show s.cursor + 3 ≤ s.letters.length
        omega
      · show 1 < s.marks.length
        omega
    have ran : (do
        if ← Scan.hop .forward 3 then
          Scan.setMark earliestStart (← Scan.state).cursor
          return true
        else return false : Scan Bool) s = .returned true
          { s with cursor := s.cursor + 3, marks := s.marks.set 1 (s.cursor + 3) } := by
      rw [Scan.bind_of_returned hopped, if_pos rfl, Scan.bind_of_returned (Scan.state_apply _)]
      exact Scan.bind_of_returned placed _
    exact Scan.probe_of_same_window ordered ran rfl rfl
  · rw [if_neg long] at hopped ⊢
    have ran : (do
        if ← Scan.hop .forward 3 then
          Scan.setMark earliestStart (← Scan.state).cursor
          return true
        else return false : Scan Bool) s = .returned false s := by
      rw [Scan.bind_of_returned hopped]
      rfl
    exact Scan.probe_of_same_window ordered ran rfl rfl

/-- From the cursor to the end of the window, past the first non-vowel after the first vowel if
there is one. -/
theorem seekNonVowel_eq (ordered : s.WindowInOrder) {α : Type} (failed : Scan α)
    (next : Scan α) :
    (do
      if !(← Scan.seek vowels .forward .inside) then failed
      else if !(← Scan.seekPast vowels .forward .outside) then failed
      else next : Scan α) s =
      match firstNonVowelAfterVowel? (s.ahead .forward) with
      | none => failed { s with cursor := s.windowEnd }
      | some nonVowel => next { s with cursor := s.cursor + (nonVowel + 1) } := by
  have room := ordered.length_ahead_forward
  have below := ordered.cursor_le_end
  have sought := Scan.seek_eq ordered vowels .forward .inside
  rw [accepts_vowels_inside] at sought
  rw [firstNonVowelAfterVowel?_eq, Scan.bind_of_returned sought]
  by_cases vowel : (s.ahead .forward).any isVowel
  · have within : (s.ahead .forward).findIdx isVowel ≤ (s.ahead .forward).length :=
      List.findIdx_le_length
    have passed := Scan.seekPast_eq (ordered.advance .forward within) vowels .forward .outside
    rw [accepts_vowels_outside, ordered.ahead_advance .forward within] at passed
    have counted : ((s.ahead .forward).drop ((s.ahead .forward).findIdx isVowel)).length =
        (s.ahead .forward).length - (s.ahead .forward).findIdx isVowel := List.length_drop
    simp only [vowel, Bool.not_true, Bool.false_eq_true, ↓reduceIte]
    rw [Scan.bind_of_returned passed]
    by_cases later : ((s.ahead .forward).drop ((s.ahead .forward).findIdx isVowel)).any
        fun letter => !isVowel letter
    · simp only [later, ↓reduceIte, Bool.not_true, Bool.false_eq_true, ScanState.advance,
        Nat.add_assoc]
    · have through := List.findIdx_eq_length_of_false (List.any_eq_false.mp
        (Bool.eq_false_of_not_eq_true later) |> fun none letter member =>
          Bool.eq_false_of_not_eq_true (none letter member))
      have atEnd : s.cursor + (s.ahead .forward).findIdx isVowel +
          ((s.ahead .forward).length - (s.ahead .forward).findIdx isVowel) = s.windowEnd := by
        omega
      simp only [later, Bool.not_false, ↓reduceIte, Bool.false_eq_true, ScanState.advance,
        through, counted, Nat.add_zero, atEnd]
  · have through : (s.ahead .forward).findIdx isVowel = (s.ahead .forward).length :=
      List.findIdx_eq_length_of_false (by simpa using vowel)
    have atEnd : s.cursor + (s.windowEnd - s.cursor) = s.windowEnd := by omega
    simp only [vowel, Bool.not_false, ↓reduceIte, Bool.false_eq_true, ScanState.advance, through,
      room, atEnd]

theorem startRegion_eq {third : Nat} (found : s.marks[1]? = some third)
    (inWord : max s.cursor third ≤ s.letters.length) :
    (do
      let position := (← Scan.state).cursor
      Scan.setMark regionStart (max position (← Scan.readMark earliestStart))
      return true : Scan Bool) s =
      .returned true { s with marks := s.marks.set 0 (max s.cursor third) } := by
  have marked : 0 < s.marks.length := by
    have := (List.getElem?_eq_some_iff.mp found).1
    omega
  have read : Scan.readMark earliestStart s = .returned third s := Scan.readMark_eq found
  have placed : Scan.setMark regionStart (max s.cursor third) s =
      .returned () { s with marks := s.marks.set 0 (max s.cursor third) } :=
    Scan.setMark_eq inWord marked
  rw [Scan.bind_of_returned (Scan.state_apply s)]
  rw [Scan.bind_of_returned read, Scan.bind_of_returned placed]
  rfl

/-- The stage by its three ways out: a short text, a text without a vowel and a later non-vowel, and
any other. Only the last moves the start of the region away from the end of the window. -/
theorem markRegions_eq (ordered : s.WindowInOrder) (marked : 2 ≤ s.marks.length) :
    markRegions s =
      if (s.ahead .forward).length < 3 then
        .returned false { s with marks := s.marks.set 0 s.windowEnd }
      else
        match firstNonVowelAfterVowel? (s.ahead .forward) with
        | none => .returned false
            { s with
              cursor := s.windowEnd
              marks := (s.marks.set 0 s.windowEnd).set 1 (s.cursor + 3) }
        | some nonVowel => .returned true
            { s with
              cursor := s.cursor + (nonVowel + 1)
              marks := ((s.marks.set 0 s.windowEnd).set 1 (s.cursor + 3)).set 0
                (s.cursor + max 3 (nonVowel + 1)) } := by
  have fits : s.windowEnd ≤ s.letters.length := ordered.end_le_length
  have below := ordered.cursor_le_end
  have room := ordered.length_ahead_forward
  have emptied : Scan.setMark regionStart s.windowEnd s =
      .returned () { s with marks := s.marks.set 0 s.windowEnd } := by
    apply Scan.setMark_eq ordered.end_le_length
    show 0 < s.marks.length
    omega
  have marking := markEarliestStart_eq (s := { s with marks := s.marks.set 0 s.windowEnd })
    ⟨ordered.start_le_cursor, ordered.cursor_le_end, ordered.end_le_length⟩
    (by simpa only [List.length_set] using marked)
  unfold markRegions
  rw [Scan.bind_of_returned (Scan.state_apply s), Scan.bind_of_returned emptied]
  change markEarliestStart _ = if 3 ≤ (s.ahead .forward).length then _ else _ at marking
  by_cases short : (s.ahead .forward).length < 3
  · rw [if_neg (by omega)] at marking
    rw [if_pos short, Scan.bind_of_returned marking]
    rfl
  · rw [if_pos (by omega)] at marking
    rw [if_neg short, Scan.bind_of_returned marking]
    apply (seekNonVowel_eq (by exact ⟨ordered.start_le_cursor, ordered.cursor_le_end,
      ordered.end_le_length⟩) _ _).trans
    change (match firstNonVowelAfterVowel? (s.ahead .forward) with
      | none => _
      | some nonVowel => _) = _
    cases found : firstNonVowelAfterVowel? (s.ahead .forward) with
    | none => rfl
    | some nonVowel =>
        have inside := lt_length_of_firstNonVowelAfterVowel? found
        have start : s.cursor + max 3 (nonVowel + 1) =
            max (s.cursor + (nonVowel + 1)) (s.cursor + 3) := by omega
        have third : ((s.marks.set 0 s.windowEnd).set 1 (s.cursor + 3))[1]? =
            some (s.cursor + 3) :=
          List.getElem?_set_self (by rw [List.length_set]; omega)
        simp only [start]
        apply startRegion_eq third
        show max (s.cursor + (nonVowel + 1)) (s.cursor + 3) ≤ s.letters.length
        omega

/-- The stage changes nothing but the cursor and the marks, of which the first is now the start of
the region. -/
theorem markRegions_marks (wellFormed : s.WellFormed) (marked : 2 ≤ s.marks.length) :
    ∃ found cursor marks,
      markRegions s = .returned found { s with cursor := cursor, marks := marks } ∧
      s.windowStart ≤ cursor ∧ cursor ≤ s.windowEnd ∧ marks.length = s.marks.length ∧
      marks[0]? = some (s.cursor + regionFrom (s.ahead .forward)) ∧
      ∀ value ∈ marks, value ≤ s.length := by
  have ordered := wellFormed.toWindowInOrder
  have fits : s.windowEnd ≤ s.letters.length := ordered.end_le_length
  have above := ordered.start_le_cursor
  have below := ordered.cursor_le_end
  have room := ordered.length_ahead_forward
  have ran := markRegions_eq ordered marked
  have region := regionFrom_le_length (s.ahead .forward)
  have start : s.windowEnd = s.cursor + (s.ahead .forward).length := by omega
  have emptied := ScanState.marks_set_le wellFormed.marks_le_length 0 ordered.end_le_length
  have first : (s.marks.set 0 s.windowEnd)[0]? = some s.windowEnd :=
    List.getElem?_set_self (by omega)
  unfold regionFrom at region ⊢
  by_cases short : (s.ahead .forward).length < 3
  · rw [if_pos short] at ran
    rw [if_pos short]
    refine ⟨false, s.cursor, s.marks.set 0 s.windowEnd, ran, above, below, List.length_set, ?_,
      emptied⟩
    rw [first, start]
  · have third := ScanState.marks_set_le emptied 1 (show s.cursor + 3 ≤ s.length by
      show s.cursor + 3 ≤ s.letters.length
      omega)
    rw [if_neg short] at ran region
    rw [if_neg short]
    cases found : firstNonVowelAfterVowel? (s.ahead .forward) with
    | none =>
        rw [found] at ran
        refine ⟨false, s.windowEnd, (s.marks.set 0 s.windowEnd).set 1 (s.cursor + 3), ran, by omega,
          Nat.le_refl _, ?_, ?_, third⟩
        · rw [List.length_set, List.length_set]
        · rw [List.getElem?_set_ne (by omega), first, start]
    | some nonVowel =>
        have inside := lt_length_of_firstNonVowelAfterVowel? found
        rw [found] at ran region
        change max 3 (nonVowel + 1) ≤ (s.ahead .forward).length at region
        refine ⟨true, s.cursor + (nonVowel + 1),
          ((s.marks.set 0 s.windowEnd).set 1 (s.cursor + 3)).set 0
            (s.cursor + max 3 (nonVowel + 1)),
          ran, by omega, by omega, ?_, ?_, ScanState.marks_set_le third 0 ?_⟩
        · rw [List.length_set, List.length_set, List.length_set]
        · exact List.getElem?_set_self (by rw [List.length_set, List.length_set]; omega)
        · show s.cursor + max 3 (nonVowel + 1) ≤ s.letters.length
          omega

theorem probe_markRegions (wellFormed : s.WellFormed) (marked : 2 ≤ s.marks.length) :
    ∃ found marks, Scan.probe markRegions s = .returned found { s with marks := marks } ∧
      marks.length = s.marks.length ∧
      marks[0]? = some (s.cursor + regionFrom (s.ahead .forward)) ∧
      ∀ value ∈ marks, value ≤ s.length := by
  obtain ⟨found, cursor, marks, ran, _, _, sameLength, first, inWord⟩ :=
    markRegions_marks wellFormed marked
  exact ⟨found, marks, Scan.probe_of_same_window wellFormed.toWindowInOrder ran rfl rfl,
    sameLength, first, inWord⟩

/-- A place of the word is the first vowel of the window from the cursor on. -/
def FirstVowel (s : ScanState) (vowel : Nat) : Prop :=
  IsLeast (Text.places isVowel s.letters s.cursor s.windowEnd) vowel

/-- A place of the word is the first non-vowel of the window behind another place. -/
def FirstNonVowelBehind (s : ScanState) (vowel nonVowel : Nat) : Prop :=
  IsLeast (Text.places (fun letter => !isVowel letter) s.letters (vowel + 1) s.windowEnd) nonVowel

theorem firstNonVowelAfterVowel?_ahead_eq_some_iff {distance : Nat} :
    firstNonVowelAfterVowel? (s.ahead .forward) = some distance ↔
      ∃ vowel, FirstVowel s vowel ∧ FirstNonVowelBehind s vowel (s.cursor + distance) := by
  simp only [FirstVowel, FirstNonVowelBehind, Text.isLeast_places_iff]
  rw [firstNonVowelAfterVowel?, ScanState.ahead]
  cases vowel : ((s.letters.take s.windowEnd).drop s.cursor).findIdx? isVowel with
  | none =>
      constructor
      · intro found
        cases found
      · rintro ⟨_, ⟨_, found, _⟩, _⟩
        cases found
  | some before =>
      have rest : ((s.letters.take s.windowEnd).drop s.cursor).drop (before + 1) =
          (s.letters.take s.windowEnd).drop (s.cursor + before + 1) := by
        rw [List.drop_drop, Nat.add_assoc]
      simp only [rest, Option.map_eq_some_iff]
      constructor
      · rintro ⟨gap, found, rfl⟩
        exact ⟨s.cursor + before, ⟨before, rfl, rfl⟩, gap, found, by omega⟩
      · rintro ⟨_, ⟨_, same, rfl⟩, gap, found, place⟩
        cases same
        exact ⟨gap, found, by omega⟩

theorem getElem?_set_region {marks : List Nat} (marked : 2 ≤ marks.length) (region third : Nat) :
    ((marks.set 0 region).set 1 third)[regionStart.index]? = some region ∧
    ((marks.set 0 region).set 1 third)[earliestStart.index]? = some third ∧
    ∀ index, index ≠ regionStart.index → index ≠ earliestStart.index →
      ((marks.set 0 region).set 1 third)[index]? = marks[index]? := by
  refine ⟨?_, ?_, ?_⟩
  · exact (List.getElem?_set_ne (by decide)).trans (List.getElem?_set_self (by omega))
  · exact List.getElem?_set_self (by rw [List.length_set]; omega)
  · intro index notRegion notEarliest
    exact (List.getElem?_set_ne notEarliest.symm).trans (List.getElem?_set_ne notRegion.symm)

theorem markRegions_of_short (ordered : s.WindowInOrder) (marked : 2 ≤ s.marks.length)
    (short : s.windowEnd - s.cursor < 3) :
    markRegions s = .returned false { s with marks := s.marks.set 0 s.windowEnd } := by
  rw [markRegions_eq ordered marked, ordered.length_ahead_forward, if_pos short]

theorem markRegions_of_absent (ordered : s.WindowInOrder) (marked : 2 ≤ s.marks.length)
    (long : ¬ s.windowEnd - s.cursor < 3)
    (absent : ¬ ∃ vowel nonVowel, FirstVowel s vowel ∧ FirstNonVowelBehind s vowel nonVowel) :
    markRegions s = .returned false
      { s with
        cursor := s.windowEnd
        marks := (s.marks.set 0 s.windowEnd).set 1 (s.cursor + 3) } := by
  have none : firstNonVowelAfterVowel? (s.ahead .forward) = none := by
    refine Option.eq_none_iff_forall_ne_some.mpr fun distance found => ?_
    obtain ⟨vowel, places⟩ := firstNonVowelAfterVowel?_ahead_eq_some_iff.mp found
    exact absent ⟨vowel, s.cursor + distance, places⟩
  rw [markRegions_eq ordered marked, ordered.length_ahead_forward, if_neg long, none]

theorem markRegions_of_places (ordered : s.WindowInOrder) (marked : 2 ≤ s.marks.length)
    (long : ¬ s.windowEnd - s.cursor < 3) {vowel nonVowel : Nat} (firstVowel : FirstVowel s vowel)
    (firstNonVowel : FirstNonVowelBehind s vowel nonVowel) :
    markRegions s = .returned true
      { s with
        cursor := nonVowel + 1
        marks := (s.marks.set 0 (max (nonVowel + 1) (s.cursor + 3))).set 1 (s.cursor + 3) } := by
  have after : s.cursor ≤ nonVowel :=
    Nat.le_trans firstVowel.1.1 (Nat.le_of_succ_le firstNonVowel.1.1)
  obtain ⟨distance, rfl⟩ := Nat.exists_eq_add_of_le after
  have sought := firstNonVowelAfterVowel?_ahead_eq_some_iff.mpr ⟨vowel, firstVowel, firstNonVowel⟩
  have start : s.cursor + max 3 (distance + 1) = max (s.cursor + distance + 1) (s.cursor + 3) := by
    omega
  -- the mark is set twice, the earliest start in between
  have twice : ((s.marks.set 0 s.windowEnd).set 1 (s.cursor + 3)).set 0
      (s.cursor + max 3 (distance + 1)) =
      (s.marks.set 0 (max (s.cursor + distance + 1) (s.cursor + 3))).set 1 (s.cursor + 3) := by
    rw [List.set_comm _ _ (by decide), List.set_set, start]
  rw [markRegions_eq ordered marked, ordered.length_ahead_forward, if_neg long, sought]
  simp only [twice, Nat.add_assoc]

/-- Where the stage leaves the cursor and the marks of the region, told by places in the word. In a
window of fewer than three letters the region is empty, and nothing else changes. In any other
window the earliest start is marked three letters from the cursor; without a vowel and a later
non-vowel the region is empty all the same, and otherwise it starts behind that non-vowel, but not
before the earliest start. The region always starts in the window, and whatever is not named here
stays. -/
theorem markRegions_by_places (s : ScanState) (ordered : s.WindowInOrder)
    (marked : 2 ≤ s.marks.length) :
    ∃ found cursor marks region,
      markRegions s = .returned found { s with cursor := cursor, marks := marks } ∧
      marks[regionStart.index]? = some region ∧ s.cursor ≤ region ∧ region ≤ s.windowEnd ∧
      (∀ index, index ≠ regionStart.index → index ≠ earliestStart.index →
        marks[index]? = s.marks[index]?) ∧
      (s.windowEnd - s.cursor < 3 →
        found = false ∧ region = s.windowEnd ∧ cursor = s.cursor ∧
          marks[earliestStart.index]? = s.marks[earliestStart.index]?) ∧
      (¬ s.windowEnd - s.cursor < 3 →
        marks[earliestStart.index]? = some (s.cursor + 3) ∧
        ((¬ ∃ vowel nonVowel, FirstVowel s vowel ∧ FirstNonVowelBehind s vowel nonVowel) →
          found = false ∧ region = s.windowEnd ∧ cursor = s.windowEnd) ∧
        ∀ vowel nonVowel, FirstVowel s vowel → FirstNonVowelBehind s vowel nonVowel →
          found = true ∧ region = max (nonVowel + 1) (s.cursor + 3) ∧ cursor = nonVowel + 1) := by
  have below := ordered.cursor_le_end
  by_cases short : s.windowEnd - s.cursor < 3
  · refine ⟨_, _, _, s.windowEnd, markRegions_of_short ordered marked short, ?_, below,
      Nat.le_refl _, ?_, ?_, absurd short⟩
    · exact List.getElem?_set_self (by omega)
    · intro index notRegion _
      exact List.getElem?_set_ne notRegion.symm
    · intro _
      exact ⟨rfl, rfl, rfl, List.getElem?_set_ne (by decide)⟩
  · by_cases present :
      ∃ vowel nonVowel, FirstVowel s vowel ∧ FirstNonVowelBehind s vowel nonVowel
    · obtain ⟨vowel, nonVowel, firstVowel, firstNonVowel⟩ := present
      have inside := firstNonVowel.1.2.1
      obtain ⟨first, second, others⟩ :=
        getElem?_set_region marked (max (nonVowel + 1) (s.cursor + 3)) (s.cursor + 3)
      refine ⟨_, _, _, _, markRegions_of_places ordered marked short firstVowel firstNonVowel,
        first, by omega, by omega, others, fun other => absurd other short, ?_⟩
      intro _
      refine ⟨second, fun absent => absurd ⟨vowel, nonVowel, firstVowel, firstNonVowel⟩ absent, ?_⟩
      intro otherVowel otherNonVowel otherFirst otherBehind
      obtain rfl := firstVowel.unique otherFirst
      obtain rfl := firstNonVowel.unique otherBehind
      exact ⟨rfl, rfl, rfl⟩
    · obtain ⟨first, second, others⟩ := getElem?_set_region marked s.windowEnd (s.cursor + 3)
      refine ⟨_, _, _, s.windowEnd, markRegions_of_absent ordered marked short present, first,
        below, Nat.le_refl _, others, fun other => absurd other short, ?_⟩
      intro _
      refine ⟨second, fun _ => ⟨rfl, rfl, rfl⟩, ?_⟩
      intro vowel nonVowel firstVowel firstNonVowel
      exact absurd ⟨vowel, nonVowel, firstVowel, firstNonVowel⟩ present

/-- `atte` in a window of `katten`: the first non-vowel behind the `a` comes so early that the
region starts at the earliest start. -/
theorem markRegions_by_places_katten :
    ScanState.WindowInOrder ⟨"katten".toList, 1, 1, 5, 0, 6, [0, 0, 2], .backward⟩ ∧
    ∃ marks,
      markRegions ⟨"katten".toList, 1, 1, 5, 0, 6, [0, 0, 2], .backward⟩ =
        .returned true ⟨"katten".toList, 3, 1, 5, 0, 6, marks, .backward⟩ ∧
      marks[0]? = some 4 ∧ marks[1]? = some 4 ∧ marks[2]? = some 2 := by
  have ordered : ScanState.WindowInOrder
      ⟨"katten".toList, 1, 1, 5, 0, 6, [0, 0, 2], .backward⟩ := by decide
  have firstVowel : FirstVowel ⟨"katten".toList, 1, 1, 5, 0, 6, [0, 0, 2], .backward⟩ 1 :=
    Text.isLeast_places_of_findIdx? (by decide : _ = some 0)
  have firstNonVowel :
      FirstNonVowelBehind ⟨"katten".toList, 1, 1, 5, 0, 6, [0, 0, 2], .backward⟩ 1 2 :=
    Text.isLeast_places_of_findIdx? (by decide : _ = some 0)
  obtain ⟨_, _, marks, _, ran, region, _, _, others, _, long⟩ :=
    markRegions_by_places _ ordered (by decide)
  obtain ⟨earliest, _, places⟩ := long (by decide)
  obtain ⟨rfl, rfl, rfl⟩ := places 1 2 firstVowel firstNonVowel
  exact ⟨ordered, marks, ran, region, earliest, others 2 (by decide) (by decide)⟩

end Stemming.Norwegian
