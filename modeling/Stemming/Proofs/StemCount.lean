import Mathlib.Algebra.BigOperators.Group.List.Lemmas
import Mathlib.Algebra.GroupWithZero.Nat
import Stemming.Proofs.Norwegian.Stems
import Stemming.Proofs.Text.Words
import Stemming.StemCount

set_option autoImplicit false

namespace Stemming.StemCount

/-- The stems of all words of some texts, once for each occurrence. -/
def stems (stemmer : Stemmer) (texts : List String) : List String :=
  (texts.flatMap Text.words).map stemmer.stem

/-- The count holds the stems of a list, each with the number of times it is there. -/
def Counts (count : StemCount) (met : List String) : Prop :=
  ∀ stem, count.occurrences[stem]? = if stem ∈ met then some (met.count stem) else none

/-- One row stands before another: the more frequent stem first, and of two equally frequent stems
the lower one. -/
def RowBefore (first second : String × Nat) : Prop :=
  second.2 < first.2 ∨ first.2 = second.2 ∧ first.1 < second.1

section

variable {count other : StemCount} {met others : List String}

theorem counts_empty : empty.Counts [] := by
  intro stem
  simp [empty]

theorem Counts.add (counts : count.Counts met) (stem : String) :
    (count.add stem).Counts (met ++ [stem]) := by
  intro asked
  have before : count.occurrences.getD stem 0 = met.count stem := by
    rw [Std.HashMap.getD_eq_getD_getElem?, counts stem]
    split
    · rfl
    · next absent => exact (List.count_eq_zero.mpr absent).symm
  rw [StemCount.add, Std.HashMap.getElem?_insert, before, counts asked]
  by_cases same : stem = asked
  · subst same
    simp
  · simp [same, Ne.symm same]

theorem Counts.foldl_add (counts : count.Counts met) (more : List String) :
    (more.foldl StemCount.add count).Counts (met ++ more) := by
  induction more generalizing count met with
  | nil => simpa using counts
  | cons stem rest ih =>
      rw [List.foldl_cons, List.append_cons]
      exact ih (counts.add stem)

theorem Counts.addText (counts : count.Counts met) (stemmer : Stemmer) (text : String) :
    (count.addText stemmer text).Counts (met ++ (Text.words text).map stemmer.stem) := by
  rw [StemCount.addText, ← List.foldl_map]
  exact counts.foldl_add _

theorem Counts.foldl_addText (counts : count.Counts met) (stemmer : Stemmer)
    (texts : List String) :
    (texts.foldl (fun count text => count.addText stemmer text) count).Counts
      (met ++ stems stemmer texts) := by
  induction texts generalizing count met with
  | nil => simpa [stems] using counts
  | cons text rest ih =>
      rw [List.foldl_cons, stems, List.flatMap_cons, List.map_append, ← List.append_assoc]
      exact ih (counts.addText stemmer text)

theorem counts_ofTexts (stemmer : Stemmer) (texts : List String) :
    (ofTexts stemmer texts).Counts (stems stemmer texts) :=
  counts_empty.foldl_addText stemmer texts

end

section

variable {rows others : List (String × Nat)}

theorem rowLE_iff (first second : String × Nat) :
    rowLE first second = true ↔
      second.2 < first.2 ∨ first.2 = second.2 ∧ first.1 ≤ second.1 := by
  simp [rowLE]

theorem rowLE_trans (first second third : String × Nat) (lower : rowLE first second = true)
    (upper : rowLE second third = true) : rowLE first third = true := by
  rw [rowLE_iff] at *
  rcases lower with more | ⟨same, below⟩
  · rcases upper with further | ⟨alike, _⟩ <;> left <;> omega
  · rcases upper with more | ⟨alike, above⟩
    · left
      omega
    · exact .inr ⟨same.trans alike, String.le_trans below above⟩

theorem rowLE_total (first second : String × Nat) :
    (rowLE first second || rowLE second first) = true := by
  rw [Bool.or_eq_true, rowLE_iff, rowLE_iff]
  rcases Nat.lt_trichotomy first.2 second.2 with less | same | more
  · exact .inr (.inl less)
  · rcases String.le_total first.1 second.1 with below | above
    · exact .inl (.inr ⟨same, below⟩)
    · exact .inr (.inr ⟨same.symm, above⟩)
  · exact .inl (.inl more)

theorem rowBefore_of_rowLE {first second : String × Nat} (ordered : rowLE first second = true)
    (different : first.1 ≠ second.1) : RowBefore first second := by
  rcases (rowLE_iff first second).mp ordered with more | ⟨same, below⟩
  · exact .inl more
  · refine .inr ⟨same, String.not_le.mp ?_⟩
    intro above
    exact different (String.le_antisymm below above)

theorem RowBefore.asymm {first second : String × Nat} (before : RowBefore first second) :
    ¬ RowBefore second first := by
  rintro (less | ⟨same, below⟩)
  · rcases before with more | ⟨alike, _⟩ <;> omega
  · rcases before with more | ⟨_, above⟩
    · omega
    · exact String.lt_irrefl first.1 (String.lt_trans above below)

theorem nodup_stems_mergeSort (distinct : (rows.map Prod.fst).Nodup) :
    ((rows.mergeSort rowLE).map Prod.fst).Nodup :=
  ((List.mergeSort_perm rows rowLE).map Prod.fst).nodup_iff.mpr distinct

/-- Sorting puts rows of different stems in their strict order. -/
theorem pairwise_mergeSort (distinct : (rows.map Prod.fst).Nodup) :
    (rows.mergeSort rowLE).Pairwise RowBefore := by
  have sorted := List.pairwise_mergeSort rowLE_trans rowLE_total rows
  have different := List.pairwise_map.mp (nodup_stems_mergeSort distinct)
  exact (sorted.and different).imp fun ⟨ordered, apart⟩ => rowBefore_of_rowLE ordered apart

theorem nodup_of_pairwise_rowBefore (sorted : rows.Pairwise RowBefore) : rows.Nodup := by
  apply sorted.imp
  rintro first second before rfl
  exact before.asymm before

/-- Rows in their strict order are known by which rows they are. -/
theorem eq_of_pairwise_rowBefore (sorted : rows.Pairwise RowBefore)
    (otherSorted : others.Pairwise RowBefore) (same : ∀ row, row ∈ rows ↔ row ∈ others) :
    rows = others := by
  have listed : rows.Perm others :=
    (List.perm_ext_iff_of_nodup (nodup_of_pairwise_rowBefore sorted)
      (nodup_of_pairwise_rowBefore otherSorted)).mpr same
  apply List.Perm.eq_of_pairwise _ sorted otherSorted listed
  intro first second _ _ before after
  exact absurd after before.asymm

end

section

variable {count other : StemCount} {met others : List String}

theorem Counts.mem_toList_iff (counts : count.Counts met) (stem : String) (times : Nat) :
    (stem, times) ∈ count.occurrences.toList ↔ stem ∈ met ∧ times = met.count stem := by
  rw [Std.HashMap.mem_toList_iff_getElem?_eq_some, counts stem]
  by_cases present : stem ∈ met
  · simp [present, eq_comm]
  · simp [present]

theorem nodup_stems_toList (count : StemCount) :
    (count.occurrences.toList.map Prod.fst).Nodup := by
  rw [Std.HashMap.map_fst_toList_eq_keys]
  exact Std.HashMap.nodup_keys

theorem pairwise_rows (count : StemCount) : count.rows.Pairwise RowBefore :=
  pairwise_mergeSort (nodup_stems_toList count)

theorem Counts.mem_rows_iff (counts : count.Counts met) (stem : String) (times : Nat) :
    (stem, times) ∈ count.rows ↔ stem ∈ met ∧ times = met.count stem := by
  rw [rows, List.mem_mergeSort, counts.mem_toList_iff]

/-- The rows depend on nothing but how often each stem was met. -/
theorem Counts.rows_eq (counts : count.Counts met) (otherCounts : other.Counts others)
    (same : met.Perm others) : count.rows = other.rows := by
  apply eq_of_pairwise_rowBefore (pairwise_rows count) (pairwise_rows other)
  rintro ⟨stem, times⟩
  rw [counts.mem_rows_iff, otherCounts.mem_rows_iff, same.mem_iff, same.count_eq]

theorem mergeSort_eq_rows {entries : List (String × Nat)}
    (listed : entries.Perm count.occurrences.toList) : entries.mergeSort rowLE = count.rows := by
  have distinct := (listed.map Prod.fst).nodup_iff.mpr (nodup_stems_toList count)
  apply eq_of_pairwise_rowBefore (pairwise_mergeSort distinct) (pairwise_rows count)
  intro row
  rw [List.mem_mergeSort, rows, List.mem_mergeSort, listed.mem_iff]

theorem nodup_stems_rows (count : StemCount) : (count.rows.map Prod.fst).Nodup :=
  nodup_stems_mergeSort (nodup_stems_toList count)

theorem Counts.rows_perm (counts : count.Counts met) :
    count.rows.Perm (met.dedup.map fun stem => (stem, met.count stem)) := by
  have distinct : (met.dedup.map fun stem => (stem, met.count stem)).Nodup := by
    apply (List.nodup_dedup met).map
    intro first second same
    exact congrArg Prod.fst same
  apply (List.perm_ext_iff_of_nodup (nodup_of_pairwise_rowBefore (pairwise_rows count))
    distinct).mpr
  rintro ⟨stem, times⟩
  rw [counts.mem_rows_iff, List.mem_map]
  constructor
  · rintro ⟨present, rfl⟩
    exact ⟨stem, List.mem_dedup.mpr present, rfl⟩
  · rintro ⟨listed, present, same⟩
    obtain ⟨rfl, rfl⟩ := Prod.mk.inj same
    exact ⟨List.mem_dedup.mp present, rfl⟩

theorem Counts.sum_rows (counts : count.Counts met) :
    (count.rows.map Prod.snd).sum = met.length := by
  rw [(counts.rows_perm.map Prod.snd).sum_nat, List.map_map]
  exact List.sum_map_count_dedup_eq_length met

end

section

variable {stemmer : Stemmer} {texts others : List String}

theorem rows_ofTexts_eq (same : (stems stemmer texts).Perm (stems stemmer others)) :
    (ofTexts stemmer texts).rows = (ofTexts stemmer others).rows :=
  (counts_ofTexts stemmer texts).rows_eq (counts_ofTexts stemmer others) same

theorem stems_perm (same : texts.Perm others) :
    (stems stemmer texts).Perm (stems stemmer others) :=
  (same.flatMap_right Text.words).map stemmer.stem

/-- A gap keeps the words of two texts apart when they are made one. -/
theorem stems_join {gap : String} (nonempty : gap ≠ "")
    (outside : ∀ letter ∈ gap.toList, Text.isAlphabetic letter = false)
    (before after : List String) (first second : String) :
    stems stemmer (before ++ (first ++ gap ++ second) :: after) =
      stems stemmer (before ++ first :: second :: after) := by
  simp only [stems, List.flatMap_append, List.flatMap_cons,
    Text.words_append_gap nonempty outside, List.append_assoc]

end

/-- The rows over some texts. There is one for each stem of their words, with the number of its
occurrences, and they are in strict order. The order of the texts has no part in them, nor has the
order in which the entries are listed, nor whether two texts come apart or as one with a gap
between. -/
theorem rows_ofTexts_count_stems (stemmer : Stemmer) (texts : List String) :
    (∀ word, stemmer.tryStem word = .ok (stemmer.stem word)) ∧
    (∀ stem times, (stem, times) ∈ (ofTexts stemmer texts).rows ↔
      stem ∈ stems stemmer texts ∧ times = (stems stemmer texts).count stem) ∧
    ((ofTexts stemmer texts).rows.map Prod.fst).Nodup ∧
    (ofTexts stemmer texts).rows.Pairwise RowBefore ∧
    ((ofTexts stemmer texts).rows.map Prod.snd).sum = (texts.flatMap Text.words).length ∧
    (∀ others, texts.Perm others →
      (ofTexts stemmer others).rows = (ofTexts stemmer texts).rows) ∧
    (∀ entries : List (String × Nat), entries.Perm (ofTexts stemmer texts).occurrences.toList →
      entries.mergeSort rowLE = (ofTexts stemmer texts).rows) ∧
    (∀ before first second after gap, texts = before ++ first :: second :: after → gap ≠ "" →
      (∀ letter ∈ gap.toList, Text.isAlphabetic letter = false) →
      (ofTexts stemmer (before ++ (first ++ gap ++ second) :: after)).rows =
        (ofTexts stemmer texts).rows) := by
  have counts := counts_ofTexts stemmer texts
  refine ⟨stemmer.tryStem_eq_stem, counts.mem_rows_iff, nodup_stems_rows _, pairwise_rows _, ?_,
    ?reordered, fun _ => mergeSort_eq_rows, ?joined⟩
  · rw [counts.sum_rows, stems, List.length_map]
  case reordered =>
    intro others same
    exact rows_ofTexts_eq (stems_perm same.symm)
  case joined =>
    rintro before first second after gap rfl nonempty outside
    exact rows_ofTexts_eq (.of_eq (stems_join nonempty outside before after first second))

/-- Two texts and the one that is made of them, with two forms of one word. -/
theorem rows_ofTexts_count_stems_hesten :
    ("hest", 2) ∈ (ofTexts ⟨.norwegian⟩ ["Hesten", "hest 1 hus"]).rows ∧
    (ofTexts ⟨.norwegian⟩ ["Hesten, hest 1 hus"]).rows =
      (ofTexts ⟨.norwegian⟩ ["hest 1 hus", "Hesten"]).rows := by
  obtain ⟨_, listed, _, _, _, reordered, _, joined⟩ :=
    rows_ofTexts_count_stems ⟨.norwegian⟩ ["Hesten", "hest 1 hus"]
  have met : stems ⟨.norwegian⟩ ["Hesten", "hest 1 hus"] = ["hest", "hest", "hus"] := by
    decide +kernel
  have swapped := reordered ["hest 1 hus", "Hesten"] (.swap _ _ _)
  have gap : ∀ letter ∈ ", ".toList, Text.isAlphabetic letter = false :=
    List.forall_mem_cons.mpr ⟨by decide +kernel,
      List.forall_mem_cons.mpr ⟨by decide +kernel, List.forall_mem_nil _⟩⟩
  have together := joined [] "Hesten" "hest 1 hus" [] ", " rfl (by decide) gap
  refine ⟨(listed "hest" 2).mpr (by rw [met]; decide), ?_⟩
  rw [swapped]
  exact together

end Stemming.StemCount
