import Mathlib.Data.Char

set_option autoImplicit false

namespace Stemming.Text

/-- The number of letters with which both texts begin. -/
def commonLength : List Char → List Char → Nat
  | first :: rest, other :: others => if first = other then commonLength rest others + 1 else 0
  | _, _ => 0

@[simp] theorem commonLength_nil_left (text : List Char) : commonLength [] text = 0 := by
  cases text <;> rfl

@[simp] theorem commonLength_nil_right (text : List Char) : commonLength text [] = 0 := by
  cases text <;> rfl

theorem commonLength_cons_cons (first other : Char) (rest others : List Char) :
    commonLength (first :: rest) (other :: others) =
      if first = other then commonLength rest others + 1 else 0 := rfl

theorem commonLength_le_left (text pattern : List Char) :
    commonLength text pattern ≤ text.length := by
  fun_induction commonLength text pattern with
  | case1 first rest others ih =>
      simp only [List.length_cons]
      omega
  | case2 => exact Nat.zero_le _
  | case3 => exact Nat.zero_le _

theorem commonLength_comm (text pattern : List Char) :
    commonLength text pattern = commonLength pattern text := by
  fun_induction commonLength text pattern with
  | case1 first rest others ih => rw [commonLength_cons_cons, if_pos rfl, ih]
  | case2 first rest other others different =>
      rw [commonLength_cons_cons, if_neg (Ne.symm different)]
  | case3 text pattern empty =>
      cases text with
      | nil => simp
      | cons first rest =>
          cases pattern with
          | nil => simp
          | cons other others => exact absurd rfl (empty first rest other others rfl)

@[simp] theorem commonLength_self (text : List Char) : commonLength text text = text.length := by
  induction text with
  | nil => rfl
  | cons first rest ih => rw [commonLength_cons_cons, if_pos rfl, ih, List.length_cons]

/-- The shared letters are enough to tell whether a pattern stands at the beginning of a text. -/
theorem isPrefix_iff_length_le_commonLength (pattern text : List Char) :
    pattern <+: text ↔ pattern.length ≤ commonLength text pattern := by
  induction pattern generalizing text with
  | nil => simp
  | cons wanted pattern ih =>
      cases text with
      | nil => simp
      | cons letter text =>
          rw [List.cons_prefix_cons, commonLength_cons_cons, ih text, List.length_cons]
          by_cases same : letter = wanted
          · rw [if_pos same]
            constructor
            · intro begins
              have := begins.2
              omega
            · intro begins
              exact ⟨same.symm, by omega⟩
          · rw [if_neg same]
            constructor
            · intro begins
              exact absurd begins.1.symm same
            · intro begins
              omega

theorem take_commonLength (text pattern : List Char) :
    text.take (commonLength text pattern) = pattern.take (commonLength text pattern) := by
  fun_induction commonLength text pattern with
  | case1 first rest others ih => rw [List.take_succ_cons, List.take_succ_cons, ih]
  | case2 => simp
  | case3 => simp

theorem commonLength_append (shared rest others : List Char) :
    commonLength (shared ++ rest) (shared ++ others) =
      shared.length + commonLength rest others := by
  induction shared with
  | nil => simp
  | cons letter shared ih =>
      rw [List.cons_append, List.cons_append, commonLength_cons_cons, if_pos rfl, ih,
        List.length_cons]
      omega

theorem append_lt_append_left_iff (shared rest others : List Char) :
    shared ++ rest < shared ++ others ↔ rest < others := by
  induction shared with
  | nil => rfl
  | cons letter shared ih => rw [List.cons_append, List.cons_append, List.cons_lt_cons_self, ih]

theorem exists_append_of_le_commonLength {text pattern : List Char} {count : Nat}
    (known : count ≤ commonLength text pattern) :
    ∃ shared rest others, shared.length = count ∧ text = shared ++ rest ∧
      pattern = shared ++ others := by
  have same := congrArg (List.take count) (take_commonLength text pattern)
  rw [List.take_take, List.take_take, Nat.min_eq_left known] at same
  refine ⟨text.take count, text.drop count, pattern.drop count, ?_, ?_, ?_⟩
  · exact List.length_take_of_le (Nat.le_trans known (commonLength_le_left text pattern))
  · exact (List.take_append_drop count text).symm
  · rw [same, List.take_append_drop]

/-- Letters that are known to be shared can be left out when the rest is counted. -/
theorem add_commonLength_drop (text pattern : List Char) (count : Nat)
    (known : count ≤ commonLength text pattern) :
    count + commonLength (text.drop count) (pattern.drop count) = commonLength text pattern := by
  obtain ⟨shared, rest, others, rfl, rfl, rfl⟩ := exists_append_of_le_commonLength known
  rw [List.drop_left, List.drop_left, commonLength_append]

theorem drop_lt_drop_iff (text pattern : List Char) (count : Nat)
    (known : count ≤ commonLength text pattern) :
    text.drop count < pattern.drop count ↔ text < pattern := by
  obtain ⟨shared, rest, others, rfl, rfl, rfl⟩ := exists_append_of_le_commonLength known
  rw [List.drop_left, List.drop_left, append_lt_append_left_iff]

/-- What a text shares with two patterns, it shares with every pattern between them. -/
theorem le_commonLength_of_between {text lower middle upper : List Char} {count : Nat}
    (low : count ≤ commonLength text lower) (high : count ≤ commonLength text upper)
    (above : ¬ middle < lower) (below : ¬ upper < middle) :
    count ≤ commonLength text middle := by
  induction count generalizing text lower middle upper with
  | zero => exact Nat.zero_le _
  | succ count ih =>
      match text, lower, upper, middle with
      | [], _, _, _ => simp at low
      | _ :: _, [], _, _ => simp at low
      | _ :: _, _ :: _, [], _ => simp at high
      | _ :: _, _ :: _, _ :: _, [] => simp at above
      | letter :: text, first :: lower, last :: upper, next :: middle =>
          rw [commonLength_cons_cons] at low high ⊢
          have atLower : letter = first := by
            by_contra different
            rw [if_neg different] at low
            omega
          have atUpper : letter = last := by
            by_contra different
            rw [if_neg different] at high
            omega
          subst atLower atUpper
          rw [List.cons_lt_cons_iff] at above below
          have same : letter = next :=
            le_antisymm (not_lt.mp fun less => above (.inl less))
              (not_lt.mp fun less => below (.inl less))
          subst same
          rw [if_pos rfl] at low high ⊢
          have innerLow : count ≤ commonLength text lower := by omega
          have innerHigh : count ≤ commonLength text upper := by omega
          have inner : count ≤ commonLength text middle :=
            ih innerLow innerHigh (fun less => above (.inr ⟨rfl, less⟩))
              (fun less => below (.inr ⟨rfl, less⟩))
          omega

theorem isPrefix_of_isPrefix_of_le {short pattern text : List Char} (begins : short <+: pattern)
    (known : short.length ≤ commonLength text pattern) : short <+: text := by
  obtain ⟨shared, rest, others, width, rfl, rfl⟩ := exists_append_of_le_commonLength known
  have inside : short <+: shared :=
    List.prefix_of_prefix_length_le begins (List.prefix_append shared others)
      (Nat.le_of_eq width.symm)
  exact inside.trans (List.prefix_append shared rest)

theorem length_le_commonLength {short pattern text : List Char} (begins : short <+: text)
    (patternBegins : short <+: pattern) : short.length ≤ commonLength text pattern := by
  obtain ⟨rest, rfl⟩ := begins
  obtain ⟨others, rfl⟩ := patternBegins
  rw [commonLength_append]
  exact Nat.le_add_right _ _

theorem not_lt_of_isPrefix {pattern text : List Char} (begins : pattern <+: text) :
    ¬ text < pattern := by
  rw [isPrefix_iff_length_le_commonLength] at begins
  rw [← drop_lt_drop_iff text pattern pattern.length begins, List.drop_length]
  exact List.not_lt_nil _

/-- A pattern at the beginning of a text is also at the beginning of each pattern between the two
in the order. -/
theorem isPrefix_of_between {pattern middle text : List Char} (begins : pattern <+: text)
    (above : ¬ middle < pattern) (below : ¬ text < middle) : pattern <+: middle := by
  rw [isPrefix_iff_length_le_commonLength, commonLength_comm] at begins ⊢
  exact le_commonLength_of_between (by simp) begins above below

end Stemming.Text
