import Mathlib.Data.List.MinMax
import Stemming.Norwegian.Endings
import Stemming.Proofs.RuleTable.LongestMatch

set_option autoImplicit false

namespace Stemming

/-- A set whose range ends in the first 256 code points is known by its members there. -/
theorem LetterSet.contains_eq {set : LetterSet} {letters : List Char} (low : set.last < 256)
    (members : (List.range 256).filter (fun code => set.contains (Char.ofNat code)) =
      letters.map Char.toNat) (letter : Char) :
    set.contains letter = letters.contains letter := by
  have coded : letter ∈ letters ↔ letter.toNat ∈ letters.map Char.toNat := by
    rw [List.mem_map]
    constructor
    · intro member
      exact ⟨letter, member, rfl⟩
    · rintro ⟨other, member, same⟩
      rwa [← Char.toNat_inj.mp same]
  rw [Bool.eq_iff_iff, List.contains_iff_mem, coded, ← members, List.mem_filter, List.mem_range,
    Char.ofNat_toNat]
  constructor
  · intro contained
    refine ⟨?_, contained⟩
    simp only [contains, Bool.and_eq_true, decide_eq_true_eq] at contained
    omega
  · intro contained
    exact contained.2

namespace Norwegian

def isVowel (letter : Char) : Bool :=
  "aeiouyåæø".toList.contains letter

/-- Whether a final s may be dropped after this letter. -/
def takesS (letter : Char) : Bool :=
  "bcdfghjlmnoprtvyz".toList.contains letter

theorem contains_vowels (letter : Char) : vowels.contains letter = isVowel letter :=
  LetterSet.contains_eq (by decide) vowels_members letter

theorem contains_sEndings (letter : Char) : sEndings.contains letter = takesS letter :=
  LetterSet.contains_eq (by decide) sEndings_members letter

theorem accepts_vowels_inside : vowels.accepts .inside = isVowel :=
  funext contains_vowels

theorem accepts_vowels_outside : vowels.accepts .outside = fun letter => !isVowel letter := by
  funext letter
  simp only [LetterSet.accepts, contains_vowels]

theorem accepts_sEndings_inside : sEndings.accepts .inside = takesS :=
  funext contains_sEndings

/-- The place of the first non-vowel after the first vowel. -/
def firstNonVowelAfterVowel? (word : List Char) : Option Nat :=
  match word.findIdx? isVowel with
  | none => none
  | some vowel =>
    ((word.drop (vowel + 1)).findIdx? fun letter => !isVowel letter).map (vowel + 1 + ·)

theorem findIdx?_eq_ite {α : Type} (accepted : α → Bool) (letters : List α) :
    letters.findIdx? accepted =
      if letters.any accepted then some (letters.findIdx accepted) else none := by
  by_cases present : letters.any accepted
  · rw [if_pos present, List.findIdx?_eq_some_iff_findIdx_eq]
    exact ⟨List.findIdx_lt_length.mpr (List.any_eq_true.mp present), rfl⟩
  · rw [if_neg present, List.findIdx?_eq_none_iff]
    simpa using present

/-- The vowel that starts the search for a non-vowel may as well be searched itself. -/
theorem firstNonVowelAfterVowel?_eq (word : List Char) :
    firstNonVowelAfterVowel? word =
      if word.any isVowel then
        let vowel := word.findIdx isVowel
        if (word.drop vowel).any fun letter => !isVowel letter then
          some (vowel + (word.drop vowel).findIdx fun letter => !isVowel letter)
        else none
      else none := by
  rw [firstNonVowelAfterVowel?, findIdx?_eq_ite]
  by_cases present : word.any isVowel
  · have inside := List.findIdx_lt_length.mpr (List.any_eq_true.mp present)
    have vowel : isVowel word[word.findIdx isVowel] := List.findIdx_getElem
    simp only [present, ↓reduceIte, findIdx?_eq_ite]
    rw [List.drop_eq_getElem_cons inside]
    simp only [List.any_cons, vowel, Bool.not_true, Bool.false_or, List.findIdx_cons, cond_false]
    split
    · simp only [Option.map_some]
      congr 1
      omega
    · rfl
  · simp only [present]
    rfl

theorem lt_length_of_firstNonVowelAfterVowel? {word : List Char} {place : Nat}
    (found : firstNonVowelAfterVowel? word = some place) : place < word.length := by
  rw [firstNonVowelAfterVowel?] at found
  cases first : word.findIdx? isVowel with
  | none => simp [first] at found
  | some vowel =>
      simp only [first, Option.map_eq_some_iff] at found
      obtain ⟨gap, later, rfl⟩ := found
      have inside := (List.findIdx?_eq_some_iff_findIdx_eq.mp later).1
      rw [List.length_drop] at inside
      omega

/-- Where the region starts in which endings may be taken off; the length of the word if there is
no such region. -/
def regionFrom (word : List Char) : Nat :=
  if word.length < 3 then word.length
  else
    match firstNonVowelAfterVowel? word with
    | none => word.length
    | some nonVowel => max 3 (nonVowel + 1)

theorem regionFrom_le_length (word : List Char) : regionFrom word ≤ word.length := by
  unfold regionFrom
  split
  · exact Nat.le_refl _
  · split
    · exact Nat.le_refl _
    · next place found =>
      have inside := lt_length_of_firstNonVowelAfterVowel? found
      omega

/-- Of some items that stand for endings, the one with the longest ending that a word has, all of it
at or after `start`. -/
def longestEnding? {α : Type} (ending : α → List Char) (items : List α) (start : Nat)
    (word : List Char) : Option α :=
  (items.filter fun item =>
    (ending item).isSuffixOf word && start + (ending item).length ≤ word.length).argmax
      fun item => (ending item).length

section LongestEnding

variable {α β : Type} {ending : α → List Char} {other : β → List Char} {items : List α}
  {others : List β} {start : Nat} {word : List Char}

theorem mem_of_longestEnding? {item : α}
    (found : longestEnding? ending items start word = some item) :
    item ∈ items ∧ ending item <:+ word ∧ start + (ending item).length ≤ word.length := by
  have member := List.mem_filter.mp (List.argmax_mem found)
  simpa only [Bool.and_eq_true, List.isSuffixOf_iff_suffix, decide_eq_true_eq] using member

theorem le_of_longestEnding? {item shorter : α}
    (found : longestEnding? ending items start word = some item) (member : shorter ∈ items)
    (ends : ending shorter <:+ word) (fits : start + (ending shorter).length ≤ word.length) :
    (ending shorter).length ≤ (ending item).length := by
  apply List.le_of_mem_argmax (f := fun item => (ending item).length) _ found
  rw [List.mem_filter]
  refine ⟨member, ?_⟩
  simpa only [Bool.and_eq_true, List.isSuffixOf_iff_suffix, decide_eq_true_eq] using
    ⟨ends, fits⟩

theorem longestEnding?_eq_none_iff :
    longestEnding? ending items start word = none ↔
      ∀ item ∈ items, ending item <:+ word → word.length < start + (ending item).length := by
  rw [longestEnding?, List.argmax_eq_none, List.filter_eq_nil_iff]
  simp only [Bool.and_eq_true, List.isSuffixOf_iff_suffix, decide_eq_true_eq, not_and,
    Nat.not_le]

/-- The longest ending does not depend on what stands for the endings. -/
theorem map_longestEnding? (same : items.map ending = others.map other) (start : Nat)
    (word : List Char) :
    (longestEnding? ending items start word).map ending =
      (longestEnding? other others start word).map other := by
  have there {letters : List Char} : (∃ item ∈ items, ending item = letters) ↔
      ∃ item ∈ others, other item = letters := by
    rw [← List.mem_map, same, List.mem_map]
  cases found : longestEnding? ending items start word with
  | none =>
      have absent := longestEnding?_eq_none_iff.mp found
      have otherAbsent : longestEnding? other others start word = none := by
        rw [longestEnding?_eq_none_iff]
        intro item member
        obtain ⟨twin, twinMember, spelled⟩ := there.mpr ⟨item, member, rfl⟩
        rw [← spelled]
        exact absent twin twinMember
      rw [otherAbsent]
      rfl
  | some item =>
      obtain ⟨member, ends, fits⟩ := mem_of_longestEnding? found
      obtain ⟨twin, twinMember, spelled⟩ := there.mp ⟨item, member, rfl⟩
      cases otherFound : longestEnding? other others start word with
      | none =>
          have short := longestEnding?_eq_none_iff.mp otherFound twin twinMember (spelled ▸ ends)
          rw [spelled] at short
          omega
      | some last =>
          obtain ⟨lastMember, lastEnds, lastFits⟩ := mem_of_longestEnding? otherFound
          obtain ⟨first, firstMember, firstSpelled⟩ := there.mpr ⟨last, lastMember, rfl⟩
          have notLonger := le_of_longestEnding? found firstMember (firstSpelled ▸ lastEnds)
            (firstSpelled ▸ lastFits)
          have notShorter := le_of_longestEnding? otherFound twinMember (spelled ▸ ends)
            (spelled ▸ fits)
          rw [firstSpelled] at notLonger
          rw [spelled] at notShorter
          -- two endings of one word that are equally long are the same
          have alike := (List.suffix_of_suffix_length_le ends lastEnds notShorter).eq_of_length
            (Nat.le_antisymm notShorter notLonger)
          rw [Option.map_some, Option.map_some, alike]

end LongestEnding

section Tables

variable {ρ : Type} {table : RuleTable Scan ρ} {start : Nat} {word : List Char}

theorem entry_of_longestEnding? {entry : Entry Scan ρ}
    (found : longestEnding? Entry.pattern table start word = some entry) :
    entry ∈ table ∧ entry.pattern <:+ word ∧ start + entry.length ≤ word.length :=
  mem_of_longestEnding? found

theorem key_isPrefix_iff (inside : start ≤ word.length) (entry : Entry Scan ρ) :
    entry.key .backward <+: (word.drop start).reverse ↔
      entry.pattern <:+ word ∧ start + entry.length ≤ word.length := by
  rw [Entry.key, Direction.reading_backward, List.reverse_prefix]
  constructor
  · intro ends
    have short : entry.length ≤ (word.drop start).length := ends.length_le
    rw [List.length_drop] at short
    exact ⟨ends.trans (List.drop_suffix start word), by omega⟩
  · rintro ⟨ends, fits⟩
    apply List.suffix_of_suffix_length_le ends (List.drop_suffix start word)
    show entry.length ≤ (word.drop start).length
    rw [List.length_drop]
    omega

/-- Of all entries that match backward from the end of a word, the longest is the one that is tried
first. -/
theorem head?_matching (sorted : table.Sorted .backward) (inside : start ≤ word.length) :
    (table.matching .backward (word.drop start).reverse).head? =
      longestEnding? Entry.pattern table start word := by
  have among (entry : Entry Scan ρ) :
      entry ∈ table.matching .backward (word.drop start).reverse ↔
        entry ∈ table ∧ entry.pattern <:+ word ∧ start + entry.length ≤ word.length := by
    rw [RuleTable.mem_matching, key_isPrefix_iff inside]
  have descending := sorted.matching_descending (word.drop start).reverse
  cases entries : table.matching .backward (word.drop start).reverse with
  | nil =>
      rw [entries] at among
      symm
      rw [List.head?_nil, longestEnding?_eq_none_iff]
      intro entry member ends
      apply Nat.lt_of_not_le
      intro fits
      exact absurd ((among entry).mpr ⟨member, ends, fits⟩) List.not_mem_nil
  | cons first others =>
      rw [entries] at among descending
      obtain ⟨member, ends, fits⟩ := (among first).mp List.mem_cons_self
      cases found : longestEnding? Entry.pattern table start word with
      | none =>
          have tooLong : word.length < start + first.length :=
            longestEnding?_eq_none_iff.mp found first member ends
          omega
      | some entry =>
          have chosen := entry_of_longestEnding? found
          have longest : first.length ≤ entry.length :=
            le_of_longestEnding? found member ends fits
          rcases List.mem_cons.mp ((among entry).mpr chosen) with rfl | later
          · rfl
          · have shorter := (List.pairwise_cons.mp descending).1 entry later
            omega

end Tables

/-- Inflectional endings. -/
def inflections : List String :=
  ["a", "e", "ede", "ande", "ende", "ane", "ene", "hetene", "erte", "en", "heten", "ar", "er",
    "heter", "s", "as", "es", "edes", "endes", "enes", "hetenes", "ens", "hetens", "ers", "ets",
    "et", "het", "ert", "ast"]

/-- Derivational endings. -/
def derivations : List String :=
  ["leg", "eleg", "ig", "eig", "lig", "elig", "els", "lov", "elov", "slov", "hetslov"]

theorem patterns_mainSuffixes :
    mainSuffixes.map Entry.pattern = inflections.map String.toList := by
  decide

theorem patterns_otherSuffixes :
    otherSuffixes.map Entry.pattern = derivations.map String.toList := by
  decide

/-- What is left of a word when its last `count` letters are taken off. -/
def without (count : Nat) (word : List Char) : List Char :=
  word.take (word.length - count)

theorem length_without (count : Nat) (word : List Char) :
    (without count word).length = word.length - count := by
  rw [without, List.length_take]
  omega

/-- Whether a final s may be dropped after `stem`: the letter before it takes an s, or is a k after
a non-vowel. -/
def dropsS (stem : List Char) : Bool :=
  match stem.reverse with
  | [] => false
  | letter :: before =>
    takesS letter || letter == 'k' && before.head?.any fun other => !isVowel other

def withoutMainSuffix (start : Nat) (word : List Char) : List Char :=
  match longestEnding? String.toList inflections start word with
  | none => word
  | some ending =>
    let stem := without ending.length word
    if ending = "s" then
      if dropsS stem then stem else word
    else if ending = "ert" ∨ ending = "erte" then
      stem ++ ['e', 'r']
    else stem

def withoutPairEnd (start : Nat) (word : List Char) : List Char :=
  if start + 2 ≤ word.length ∧ (['d', 't'] <:+ word ∨ ['v', 't'] <:+ word) then word.dropLast
  else word

def withoutOtherSuffix (start : Nat) (word : List Char) : List Char :=
  match longestEnding? String.toList derivations start word with
  | none => word
  | some ending => without ending.length word

theorem length_mainSuffixes : ∀ entry ∈ mainSuffixes,
    0 < entry.length ∧ (entry.result = .replaceWithEr → 2 < entry.length) := by
  decide

theorem length_otherSuffixes : ∀ entry ∈ otherSuffixes, 0 < entry.length := by
  decide

/-- What an effect makes of a word that ends in an ending of `count` letters. -/
def afterEffect (effect : Effect) (count : Nat) (word : List Char) : List Char :=
  match effect with
  | .delete => without count word
  | .deleteAfterSEnding => if dropsS (without count word) then without count word else word
  | .replaceWithEr => without count word ++ ['e', 'r']

theorem result_mainSuffixes : ∀ entry ∈ mainSuffixes,
    (entry.result = .deleteAfterSEnding ↔ entry.pattern = "s".toList) ∧
    (entry.result = .replaceWithEr ↔
      entry.pattern = "ert".toList ∨ entry.pattern = "erte".toList) := by
  decide

/-- The effects in the table are the ones that the rules for words name by their endings. -/
theorem withoutMainSuffix_eq (start : Nat) (word : List Char) :
    withoutMainSuffix start word =
      match longestEnding? Entry.pattern mainSuffixes start word with
      | none => word
      | some entry => afterEffect entry.result entry.length word := by
  have same := map_longestEnding? patterns_mainSuffixes start word
  unfold withoutMainSuffix
  cases longest : longestEnding? Entry.pattern mainSuffixes start word with
  | none =>
      rw [longest] at same
      rw [Option.map_eq_none_iff.mp same.symm]
  | some entry =>
      rw [longest] at same
      obtain ⟨ending, found, spelled⟩ := Option.map_eq_some_iff.mp same.symm
      obtain ⟨sRule, erRule⟩ := result_mainSuffixes entry (entry_of_longestEnding? longest).1
      rw [← spelled, String.toList_inj] at sRule
      rw [← spelled, String.toList_inj, String.toList_inj] at erRule
      have count : entry.length = ending.length := by
        rw [Entry.length, ← spelled, String.length_toList]
      simp only [found, count]
      cases effect : entry.result with
      | delete =>
          rw [effect] at sRule erRule
          rw [if_neg (by simpa using sRule), if_neg (by simpa using erRule)]
          rfl
      | deleteAfterSEnding =>
          rw [if_pos (sRule.mp effect)]
          rfl
      | replaceWithEr =>
          rw [effect] at sRule
          rw [if_neg (by simpa using sRule), if_pos (erRule.mp effect)]
          rfl

theorem withoutOtherSuffix_eq (start : Nat) (word : List Char) :
    withoutOtherSuffix start word =
      match longestEnding? Entry.pattern otherSuffixes start word with
      | none => word
      | some entry => without entry.length word := by
  have same := map_longestEnding? patterns_otherSuffixes start word
  unfold withoutOtherSuffix
  cases longest : longestEnding? Entry.pattern otherSuffixes start word with
  | none =>
      rw [longest] at same
      rw [Option.map_eq_none_iff.mp same.symm]
  | some entry =>
      rw [longest] at same
      obtain ⟨ending, found, spelled⟩ := Option.map_eq_some_iff.mp same.symm
      have count : entry.length = ending.length := by
        rw [Entry.length, ← spelled, String.length_toList]
      simp only [found, count]

theorem longestEnding?_consonantPairs_isSome (start : Nat) (word : List Char) :
    (longestEnding? Entry.pattern consonantPairs start word).isSome ↔
      start + 2 ≤ word.length ∧ (['d', 't'] <:+ word ∨ ['v', 't'] <:+ word) := by
  cases found : longestEnding? Entry.pattern consonantPairs start word with
  | none =>
      have absent := longestEnding?_eq_none_iff.mp found
      have dt := absent (.plain "dt" none ()) (by simp [consonantPairs])
      have vt := absent (.plain "vt" none ()) (by simp [consonantPairs])
      constructor
      · intro impossible
        cases impossible
      · rintro ⟨fits, ends | ends⟩
        · have short := dt ends
          change word.length < start + 2 at short
          omega
        · have short := vt ends
          change word.length < start + 2 at short
          omega
  | some entry =>
      obtain ⟨member, ends, fits⟩ := entry_of_longestEnding? found
      simp only [consonantPairs, List.mem_cons, List.not_mem_nil, or_false] at member
      rcases member with rfl | rfl
      · exact ⟨fun _ => ⟨fits, .inl ends⟩, fun _ => rfl⟩
      · exact ⟨fun _ => ⟨fits, .inr ends⟩, fun _ => rfl⟩

/-- What the endings in the region, taken off one after another, leave of a word. -/
def withoutEndings (start : Nat) (word : List Char) : List Char :=
  withoutOtherSuffix start (withoutPairEnd start (withoutMainSuffix start word))

/-- The stem of a word. The region is found once, in the word as given. -/
def stemOf (word : List Char) : List Char :=
  withoutEndings (regionFrom word) word

theorem longestEnding?_of_short {ρ : Type} {table : RuleTable Scan ρ} {start : Nat}
    {word : List Char} (nonempty : ∀ entry ∈ table, 0 < entry.length)
    (short : word.length ≤ start) : longestEnding? Entry.pattern table start word = none := by
  rw [longestEnding?_eq_none_iff]
  intro entry member _
  show word.length < start + entry.length
  have := nonempty entry member
  omega

theorem withoutEndings_of_short {start : Nat} {word : List Char} (short : word.length ≤ start) :
    withoutEndings start word = word := by
  have main : withoutMainSuffix start word = word := by
    rw [withoutMainSuffix_eq, longestEnding?_of_short
      (fun entry member => (length_mainSuffixes entry member).1) short]
  have pair : withoutPairEnd start word = word := by
    rw [withoutPairEnd, if_neg (by omega)]
  have other : withoutOtherSuffix start word = word := by
    rw [withoutOtherSuffix_eq, longestEnding?_of_short length_otherSuffixes short]
  rw [withoutEndings, main, pair, other]

end Norwegian

end Stemming
