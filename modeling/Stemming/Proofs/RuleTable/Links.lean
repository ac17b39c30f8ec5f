import Mathlib.Data.List.Nodup
import Mathlib.Logic.Relation
import Stemming.Proofs.RuleTable.InTurn

set_option autoImplicit false

namespace Stemming

namespace RuleTable

variable {M : Type → Type} {ρ : Type}

def LinksTo (table : RuleTable M ρ) (index next : Nat) : Prop :=
  ∃ entry, table[index]? = some entry ∧ entry.link = some next

/-- Links stay inside the table, and no chain of links leads back to where it started. -/
structure Linked (table : RuleTable M ρ) : Prop where
  inside : ∀ {index next : Nat}, table.LinksTo index next → next < table.length
  acyclic : ∀ index, ¬ Relation.TransGen table.LinksTo index index

/-- Links of which each leads to an entry of a lower rank never lead back. -/
theorem linked_of_rank {table : RuleTable M ρ} (rank : Nat → Nat)
    (inside : ∀ {index next : Nat}, table.LinksTo index next → next < table.length)
    (down : ∀ {index next : Nat}, table.LinksTo index next → rank next < rank index) :
    table.Linked where
  inside := inside
  acyclic index round := by
    have lower {last : Nat} (leads : Relation.TransGen table.LinksTo index last) :
        rank last < rank index := by
      induction leads with
      | single edge => exact down edge
      | tail _ edge ih => exact Nat.lt_trans (down edge) ih
    exact Nat.lt_irrefl _ (lower round)

/-- The entries to which the links from an entry lead, that entry first. -/
inductive Chain (table : RuleTable M ρ) : Nat → List (Entry M ρ) → Prop
  | last {index : Nat} {entry : Entry M ρ} (found : table[index]? = some entry)
      (unlinked : entry.link = none) : Chain table index [entry]
  | link {index next : Nat} {entry : Entry M ρ} {others : List (Entry M ρ)}
      (found : table[index]? = some entry) (linked : entry.link = some next)
      (rest : Chain table next others) : Chain table index (entry :: others)

/-- A chain has not passed the entries from which it can be reached, and they are no more than the
table has. -/
theorem Linked.exists_chain_of_passed {table : RuleTable M ρ} (linked : table.Linked)
    (left : Nat) (index : Nat) (passed : List Nat) (inside : index < table.length)
    (different : passed.Nodup) (inTable : passed ⊆ List.range table.length)
    (before : ∀ earlier ∈ passed, Relation.TransGen table.LinksTo earlier index)
    (counted : passed.length + left = table.length) :
    ∃ entries, table.Chain index entries ∧ entries.length ≤ left := by
  induction left generalizing index passed with
  | zero =>
      have fresh : index ∉ passed := fun member => linked.acyclic index (before index member)
      have bounded := (List.nodup_cons.mpr ⟨fresh, different⟩).length_le_of_subset
        (List.cons_subset.mpr ⟨List.mem_range.mpr inside, inTable⟩)
      simp only [List.length_cons, List.length_range] at bounded
      omega
  | succ left ih =>
      have fresh : index ∉ passed := fun member => linked.acyclic index (before index member)
      have found : table[index]? = some table[index] := List.getElem?_eq_getElem inside
      cases leads : table[index].link with
      | none => exact ⟨[table[index]], .last found leads, by simp⟩
      | some next =>
          have edge : table.LinksTo index next := ⟨table[index], found, leads⟩
          obtain ⟨others, rest, short⟩ := ih next (index :: passed)
            (linked.inside edge) (List.nodup_cons.mpr ⟨fresh, different⟩)
            (List.cons_subset.mpr ⟨List.mem_range.mpr inside, inTable⟩)
            (by
              intro earlier member
              rcases List.mem_cons.mp member with rfl | member
              · exact .single edge
              · exact .tail (before earlier member) edge)
            (by simp only [List.length_cons]; omega)
          exact ⟨table[index] :: others, .link found leads rest, by simpa using short⟩

theorem Linked.exists_chain {table : RuleTable M ρ} (linked : table.Linked) {index : Nat}
    (inside : index < table.length) :
    ∃ entries, table.Chain index entries ∧ entries.length ≤ table.length :=
  linked.exists_chain_of_passed table.length index [] inside List.nodup_nil (List.nil_subset _)
    (fun _ member => absurd member List.not_mem_nil) (by simp)

theorem Chain.subset {table : RuleTable M ρ} {index : Nat} {entries : List (Entry M ρ)}
    (chain : table.Chain index entries) : entries ⊆ table := by
  induction chain with
  | last found _ => exact List.cons_subset.mpr ⟨List.mem_of_getElem? found, List.nil_subset _⟩
  | link found _ _ ih => exact List.cons_subset.mpr ⟨List.mem_of_getElem? found, ih⟩

theorem walk_succ {table : RuleTable Scan ρ} {direction : Direction} {near shared fuel index : Nat}
    {entry : Entry Scan ρ} (found : table[index]? = some entry) :
    (table.walk direction near shared (fuel + 1) index : Scan (Option ρ)) = (do
      let taken ←
        if entry.length ≤ shared then (entry.take direction near : Scan Bool) else pure false
      if taken then
        return some entry.result
      else
        match entry.link with
        | some next => table.walk direction near shared fuel next
        | none =>
          Scan.placeCursor near
          return none) := by
  rw [walk, found]
  rfl

theorem tryInTurn_filter_cons {direction : Direction} {near shared : Nat}
    {entry : Entry Scan ρ} {others : List (Entry Scan ρ)}
    (fits : direction = .backward → shared ≤ near) :
    (do
      let taken ←
        if entry.length ≤ shared then (entry.take direction near : Scan Bool) else pure false
      if taken then return some entry.result
      else tryInTurn direction near (others.filter fun entry => entry.length ≤ shared)) =
      tryInTurn direction near ((entry :: others).filter fun entry => entry.length ≤ shared) := by
  by_cases short : entry.length ≤ shared
  · rw [List.filter_cons_of_pos (by simpa using short), if_pos short,
      tryInTurn_cons direction near entry _ fun backward => Nat.le_trans short (fits backward)]
  · rw [List.filter_cons_of_neg (by simpa using short), if_neg short, pure_bind]
    rfl

/-- A walk tries the entries on the chain of links that have no more letters than are shared, and
needs no more steps than the chain has entries. -/
theorem walk_eq_tryInTurn {table : RuleTable Scan ρ} {direction : Direction} (fuel : Nat)
    {near shared index : Nat} {entries : List (Entry Scan ρ)}
    (chain : table.Chain index entries) (enough : entries.length ≤ fuel)
    (fits : direction = .backward → shared ≤ near) :
    (table.walk direction near shared fuel index : Scan (Option ρ)) =
      tryInTurn direction near (entries.filter fun entry => entry.length ≤ shared) := by
  induction chain generalizing fuel with
  | last found unlinked =>
      obtain ⟨fuel, rfl⟩ : ∃ rest, fuel = rest + 1 := Nat.exists_eq_add_of_le' enough
      rw [walk_succ found, unlinked, ← tryInTurn_filter_cons fits]
      rfl
  | link found leads rest ih =>
      obtain ⟨fuel, rfl⟩ : ∃ rest, fuel = rest + 1 :=
        Nat.exists_eq_add_of_le' (Nat.le_trans (Nat.le_add_left 1 _) enough)
      have shorter := Nat.le_of_succ_le_succ enough
      rw [walk_succ found, leads, ← tryInTurn_filter_cons fits]
      simp only [ih fuel shorter]

end RuleTable

end Stemming
