import Mathlib.Data.List.Forall2
import Stemming.Text.Lowercase

set_option autoImplicit false

namespace Stemming.Text

namespace CaseRun

def top (run : CaseRun) : Nat :=
  run.small + (run.last - run.first)

/-- Whether the small letters of a run lie below or above the capitals of another, or between them
where those are every second code point. -/
def apart (run other : CaseRun) : Bool :=
  Nat.blt other.last run.small || Nat.blt run.top other.first ||
    other.stride == 2 && (run.first == run.last || run.stride == 2) &&
      (run.small + other.first) % 2 == 1

variable {run other : CaseRun} {code : Nat}

theorem covers_iff :
    run.covers code = true ↔
      run.first ≤ code ∧ code ≤ run.last ∧ (code - run.first) % run.stride = 0 := by
  rw [covers, Bool.and_eq_true, Bool.and_eq_true, decide_eq_true_eq, decide_eq_true_eq, beq_iff_eq,
    and_assoc]

theorem map_bounds (capital : run.covers code = true) :
    run.small ≤ run.map code ∧ run.map code ≤ run.top := by
  obtain ⟨above, below, _⟩ := covers_iff.mp capital
  simp only [map, top]
  omega

/-- A small letter is no capital of a run from which its own run is apart. -/
theorem covers_map_eq_false (apart : run.apart other = true) (capital : run.covers code = true) :
    other.covers (run.map code) = false := by
  obtain ⟨small, top⟩ := map_bounds capital
  obtain ⟨above, below, place⟩ := covers_iff.mp capital
  rw [Bool.eq_false_iff, ne_eq, covers_iff]
  rintro ⟨otherAbove, otherBelow, otherPlace⟩
  simp only [CaseRun.apart, Nat.blt_eq, Bool.or_eq_true, Bool.and_eq_true, beq_iff_eq] at apart
  rcases apart with (beyond | beyond) | ⟨⟨otherStride, step⟩, odd⟩
  · omega
  · omega
  · -- the capitals are at even distances from the first of them, the small letters at odd ones
    simp only [map] at otherAbove otherPlace
    rw [otherStride] at otherPlace
    rcases step with single | stride
    · omega
    · rw [stride] at place
      omega

end CaseRun

theorem all_apart : (caseRuns.all fun run => caseRuns.all run.apart) = true := by
  decide +kernel

theorem top_isValidChar :
    ∀ run ∈ caseRuns, run.top < 0xD800 ∨ 0xDFFF < run.small ∧ run.top < 0x110000 := by
  decide +kernel

section

variable {run : CaseRun} {letters : List Char}

theorem lowerCode_cases (code : Nat) :
    lowerCode code = code ∨
      ∃ run ∈ caseRuns, run.covers code = true ∧ lowerCode code = run.map code := by
  rw [lowerCode]
  cases found : caseRuns.find? (·.covers code) with
  | none => exact .inl rfl
  | some run =>
      have capital : run.covers code = true :=
        List.find?_some (p := fun run : CaseRun => run.covers code) found
      exact .inr ⟨run, List.mem_of_find?_eq_some found, capital, rfl⟩

theorem find?_covers_map {code : Nat} (member : run ∈ caseRuns) (capital : run.covers code = true) :
    caseRuns.find? (·.covers (run.map code)) = none := by
  rw [List.find?_eq_none]
  intro other otherMember
  have apart := List.all_eq_true.mp (List.all_eq_true.mp all_apart run member) other otherMember
  rw [CaseRun.covers_map_eq_false apart capital]
  exact Bool.false_ne_true

theorem lowerCode_lowerCode (code : Nat) : lowerCode (lowerCode code) = lowerCode code := by
  obtain stays | ⟨run, member, capital, folds⟩ := lowerCode_cases code
  · rw [stays, stays]
  · rw [folds, lowerCode, find?_covers_map member capital]

theorem isValidChar_lowerCode (letter : Char) : (lowerCode letter.toNat).isValidChar := by
  obtain stays | ⟨run, member, capital, folds⟩ := lowerCode_cases letter.toNat
  · rw [stays]
    exact letter.valid
  · rw [folds, Nat.isValidChar]
    have bounds := CaseRun.map_bounds capital
    have valid := top_isValidChar run member
    omega

theorem toNat_lower (letter : Char) : (lower letter).toNat = lowerCode letter.toNat := by
  rw [lower, Char.ofNat, dif_pos (isValidChar_lowerCode letter)]
  rfl

theorem lower_lower (letter : Char) : lower (lower letter) = lower letter := by
  rw [lower, toNat_lower, lowerCode_lowerCode]
  rfl

theorem fold_fold (letters : List Char) : fold (fold letters) = fold letters := by
  rw [fold, fold, List.map_map]
  exact List.map_congr_left fun letter _ => lower_lower letter

theorem lower_eq_of_mem_fold {letter : Char} (member : letter ∈ fold letters) :
    lower letter = letter := by
  obtain ⟨original, _, rfl⟩ := List.mem_map.mp member
  exact lower_lower original

theorem fold_eq_fold_iff {others : List Char} :
    fold letters = fold others ↔
      List.Forall₂ (fun letter other => lower letter = lower other) letters others := by
  rw [fold, fold, ← List.forall₂_eq_eq_eq, List.forall₂_map_left_iff, List.forall₂_map_right_iff]

end

end Stemming.Text
