import QueueFabric.Lib.Table

/-!
Listings: the values of a table, and what sorting makes of values that are told
apart by a key.
-/

/-- Sorting by a key no two values share lists them in strictly ascending order. -/
theorem ascending_mergeSort {α β : Type} [LE β] [LT β] [DecidableLE β] [Std.IsLinearOrder β]
    [Std.LawfulOrderLT β] (key : α → β) {listing : List α}
    (distinct : listing.Pairwise fun first second => key first ≠ key second) :
    (listing.mergeSort fun first second => key first ≤ key second).Pairwise
      fun first second => key first < key second := by
  have sorted := @List.pairwise_mergeSort α
    (fun first second => decide (key first ≤ key second))
    (fun first second third one two => by
      rw [decide_eq_true_eq] at one two ⊢
      exact Std.le_trans one two)
    (fun first second => by
      rw [Bool.or_eq_true, decide_eq_true_eq, decide_eq_true_eq]
      exact Std.le_total) listing
  have apart : (listing.mergeSort fun first second => key first ≤ key second).Pairwise
      fun first second => key first ≠ key second :=
    ((List.mergeSort_perm listing _).pairwise_iff fun different => different.symm).mpr distinct
  refine (sorted.and apart).imp fun both => ?_
  exact Std.lt_of_le_of_ne (of_decide_eq_true both.1) both.2

namespace Table

variable {κ ν : Type} [DecidableEq κ]

theorem mem_values (table : Table κ ν) (value : ν) :
    value ∈ table.values ↔ ∃ key, table.get? key = some value := by
  rw [values, List.mem_map]
  constructor
  · rintro ⟨⟨key, stored⟩, member, rfl⟩
    exact ⟨key, (mem_entries_iff _ _ _).mp member⟩
  · rintro ⟨key, found⟩
    exact ⟨(key, value), (mem_entries_iff _ _ _).mpr found, rfl⟩

/-- Values that name their own keys are told apart by them. -/
theorem values_apart (table : Table κ ν) (label : ν → κ)
    (keyed : ∀ key value, table.get? key = some value → label value = key) :
    table.values.Pairwise fun first second => label first ≠ label second := by
  have distinct := table.nodup
  rw [List.Nodup, List.pairwise_map] at distinct
  rw [values, List.pairwise_map]
  refine distinct.imp_of_mem fun first second different => ?_
  rw [keyed _ _ ((mem_entries_iff _ _ _).mp first), keyed _ _ ((mem_entries_iff _ _ _).mp second)]
  exact different

end Table
