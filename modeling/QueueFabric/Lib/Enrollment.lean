import Mathlib

/-!
A roll of distinct names in the order of their first appearance: a name that is on
the roll already is not entered again. Reading a log from any point between its
start and its end leaves the same roll behind.
-/

namespace Enrollment

variable {α : Type} [DecidableEq α]

def enroll (roll : List α) (name : α) : List α := if name ∈ roll then roll else roll ++ [name]

/-- The roll once a whole log of names is read. -/
def enrollAll (roll : List α) (log : List α) : List α := log.foldl enroll roll

theorem enroll_of_mem {roll : List α} {name : α} (known : name ∈ roll) :
    enroll roll name = roll := if_pos known

theorem enroll_of_fresh {roll : List α} {name : α} (fresh : name ∉ roll) :
    enroll roll name = roll ++ [name] := if_neg fresh

theorem prefix_enroll (roll : List α) (name : α) : roll <+: enroll roll name := by
  by_cases known : name ∈ roll
  · rw [enroll_of_mem known]
  · rw [enroll_of_fresh known]
    exact List.prefix_append roll [name]

theorem mem_enroll (roll : List α) (name : α) : name ∈ enroll roll name := by
  by_cases known : name ∈ roll
  · rwa [enroll_of_mem known]
  · rw [enroll_of_fresh known]
    exact List.mem_append_right roll (List.mem_singleton_self name)

theorem nodup_enroll {roll : List α} (distinct : roll.Nodup) (name : α) :
    (enroll roll name).Nodup := by
  by_cases known : name ∈ roll
  · rwa [enroll_of_mem known]
  · rw [enroll_of_fresh known]
    exact List.nodup_append.mpr ⟨distinct, List.nodup_singleton name,
      fun first held last new same => known (List.mem_singleton.mp new ▸ same ▸ held)⟩

theorem enrollAll_cons (roll : List α) (name : α) (log : List α) :
    enrollAll roll (name :: log) = enrollAll (enroll roll name) log := rfl

theorem enrollAll_append (roll first second : List α) :
    enrollAll roll (first ++ second) = enrollAll (enrollAll roll first) second :=
  List.foldl_append

theorem prefix_enrollAll (roll log : List α) : roll <+: enrollAll roll log := by
  induction log generalizing roll with
  | nil => exact List.prefix_refl roll
  | cons name log ih => exact (prefix_enroll roll name).trans (ih (enroll roll name))

theorem nodup_enrollAll {roll : List α} (distinct : roll.Nodup) (log : List α) :
    (enrollAll roll log).Nodup := by
  induction log generalizing roll with
  | nil => exact distinct
  | cons name log ih => exact ih (nodup_enroll distinct name)

theorem mem_enrollAll {roll log : List α} {name : α} (listed : name ∈ log) :
    name ∈ enrollAll roll log := by
  induction log generalizing roll with
  | nil => cases listed
  | cons first log ih =>
      rcases List.mem_cons.mp listed with rfl | later
      · exact (prefix_enrollAll _ log).subset (mem_enroll roll name)
      · exact ih later

theorem enrollAll_of_subset {roll log : List α} (known : log ⊆ roll) :
    enrollAll roll log = roll := by
  induction log with
  | nil => rfl
  | cons name log ih =>
      rw [enrollAll_cons, enroll_of_mem (known List.mem_cons_self)]
      exact ih fun other listed => known (List.mem_cons_of_mem name listed)

omit [DecidableEq α] in
/-- Two prefixes of one roll: the one that goes past `roll` holds the name entered next. -/
theorem concat_within {roll later whole : List α} {name : α} (early : roll <+: later)
    (different : later ≠ roll) (reached : roll ++ [name] <+: whole) (within : later <+: whole) :
    roll ++ [name] <+: later := by
  refine List.prefix_of_prefix_length_le reached within ?_
  have shorter := early.length_le
  have unequal : roll.length ≠ later.length := fun equal =>
    different (early.eq_of_length equal).symm
  rw [List.length_append, List.length_singleton]
  omega

/-- A reader that has part of the roll already ends with the same roll. -/
theorem enrollAll_resumed {roll later log : List α} (early : roll <+: later)
    (within : later <+: enrollAll roll log) : enrollAll later log = enrollAll roll log := by
  induction log generalizing roll later with
  | nil => exact within.eq_of_length_le early.length_le
  | cons name log ih =>
      rw [enrollAll_cons] at within ⊢
      by_cases known : name ∈ roll
      · rw [enroll_of_mem known] at within
        rw [enrollAll_cons, enroll_of_mem known, enroll_of_mem (early.subset known)]
        exact ih early within
      · rw [enroll_of_fresh known] at within
        rw [enrollAll_cons, enroll_of_fresh known]
        by_cases same : later = roll
        · rw [same, enroll_of_fresh known]
        · -- `later` goes past `roll`, so the name the log enters here is its next one
          have ahead := concat_within early same (prefix_enrollAll (roll ++ [name]) log) within
          have held := ahead.subset (List.mem_append_right roll (List.mem_singleton_self name))
          rw [enroll_of_mem held]
          exact ih ahead within

end Enrollment
