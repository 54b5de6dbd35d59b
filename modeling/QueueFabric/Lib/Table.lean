import Mathlib

/-!
Finite maps kept as association lists. A table carries the proof that its keys
are distinct, so lookups, updates and counts need no side condition.
-/

structure Table (κ ν : Type) where
  entries : List (κ × ν)
  nodup : (entries.map Prod.fst).Nodup

namespace Table

variable {κ ν : Type} [DecidableEq κ]

def findIn (key : κ) : List (κ × ν) → Option ν
  | [] => none
  | (other, value) :: rest => if other = key then some value else findIn key rest

def insertIn (key : κ) (value : ν) : List (κ × ν) → List (κ × ν)
  | [] => [(key, value)]
  | (other, old) :: rest =>
      if other = key then (other, value) :: rest else (other, old) :: insertIn key value rest

omit [DecidableEq κ] in
theorem map_fst_mapValues (f : κ → ν → ν) (entries : List (κ × ν)) :
    (entries.map fun entry => (entry.1, f entry.1 entry.2)).map Prod.fst =
      entries.map Prod.fst := by
  simp [Function.comp_def]

theorem mem_fst_insertIn (key query : κ) (value : ν) (entries : List (κ × ν)) :
    query ∈ (insertIn key value entries).map Prod.fst ↔
      query = key ∨ query ∈ entries.map Prod.fst := by
  induction entries with
  | nil => simp [insertIn]
  | cons entry rest ih =>
      simp only [insertIn]
      by_cases same : entry.1 = key
      · simp only [same, ↓reduceIte, List.map_cons, List.mem_cons]
        tauto
      · simp only [same, ↓reduceIte, List.map_cons, List.mem_cons, ih]
        tauto

theorem nodup_insertIn (key : κ) (value : ν) (entries : List (κ × ν))
    (unique : (entries.map Prod.fst).Nodup) :
    ((insertIn key value entries).map Prod.fst).Nodup := by
  induction entries with
  | nil => simp [insertIn]
  | cons entry rest ih =>
      simp only [List.map_cons, List.nodup_cons] at unique
      simp only [insertIn]
      by_cases same : entry.1 = key
      · simpa [same] using unique
      · simp only [same, ↓reduceIte, List.map_cons, List.nodup_cons, mem_fst_insertIn, false_or]
        exact ⟨unique.1, ih unique.2⟩

def empty : Table κ ν := ⟨[], by simp⟩

def get? (table : Table κ ν) (key : κ) : Option ν := findIn key table.entries

def contains (table : Table κ ν) (key : κ) : Bool := (table.get? key).isSome

def size (table : Table κ ν) : Nat := table.entries.length

/-- Assigns `value` to `key`, replacing an earlier value in place. -/
def insert (table : Table κ ν) (key : κ) (value : ν) : Table κ ν :=
  ⟨insertIn key value table.entries, nodup_insertIn key value table.entries table.nodup⟩

/-- Adds an entry only when the key is absent. -/
def emplace (table : Table κ ν) (key : κ) (value : ν) : Table κ ν :=
  if table.contains key then table else table.insert key value

def mapValues (f : κ → ν → ν) (table : Table κ ν) : Table κ ν :=
  ⟨table.entries.map fun entry => (entry.1, f entry.1 entry.2), by
    rw [map_fst_mapValues]; exact table.nodup⟩

def erase (table : Table κ ν) (key : κ) : Table κ ν :=
  ⟨table.entries.filter fun entry => !decide (entry.1 = key),
    table.nodup.sublist (List.filter_sublist.map _)⟩

def values (table : Table κ ν) : List ν := table.entries.map Prod.snd

theorem findIn_insertIn (key query : κ) (value : ν) (entries : List (κ × ν)) :
    findIn query (insertIn key value entries) =
      if key = query then some value else findIn query entries := by
  induction entries with
  | nil => simp [insertIn, findIn]
  | cons entry rest ih =>
      simp only [insertIn]
      by_cases same : entry.1 = key
      · simp only [same, ↓reduceIte, findIn]
        split <;> rfl
      · simp only [same, ↓reduceIte, findIn, ih]
        by_cases first : entry.1 = query
        · have different : key ≠ query := fun equal => same (first.trans equal.symm)
          simp [first, different]
        · simp [first]

theorem findIn_mapValues (f : κ → ν → ν) (query : κ) (entries : List (κ × ν)) :
    findIn query (entries.map fun entry => (entry.1, f entry.1 entry.2)) =
      (findIn query entries).map (f query) := by
  induction entries with
  | nil => rfl
  | cons entry rest ih =>
      simp only [List.map_cons, findIn]
      by_cases same : entry.1 = query
      · simp [same]
      · simp [same, ih]

theorem findIn_filter (key query : κ) (entries : List (κ × ν)) :
    findIn query (entries.filter fun entry => !decide (entry.1 = key)) =
      if key = query then none else findIn query entries := by
  induction entries with
  | nil => simp [findIn]
  | cons entry rest ih =>
      by_cases removed : entry.1 = key
      · simp only [List.filter_cons, removed, decide_true, Bool.not_true, Bool.false_eq_true,
          ↓reduceIte, ih, findIn]
        split <;> rfl
      · simp only [List.filter_cons, removed, decide_false, Bool.not_false, ↓reduceIte, findIn, ih]
        by_cases same : entry.1 = query
        · have different : key ≠ query := fun equal => removed (same.trans equal.symm)
          simp [same, different]
        · simp [same]

theorem findIn_some_mem {key : κ} {value : ν} {entries : List (κ × ν)}
    (found : findIn key entries = some value) : (key, value) ∈ entries := by
  induction entries with
  | nil => simp [findIn] at found
  | cons entry rest ih =>
      simp only [findIn] at found
      split at found
      · rename_i same
        simp only [Option.some.injEq] at found
        subst same found
        simp
      · exact List.mem_cons_of_mem _ (ih found)

theorem findIn_of_mem {key : κ} {value : ν} {entries : List (κ × ν)}
    (unique : (entries.map Prod.fst).Nodup) (member : (key, value) ∈ entries) :
    findIn key entries = some value := by
  induction entries with
  | nil => simp at member
  | cons entry rest ih =>
      simp only [List.map_cons, List.nodup_cons] at unique
      simp only [findIn]
      rcases List.mem_cons.mp member with first | later
      · simp [← first]
      · have different : entry.1 ≠ key := by
          intro same
          exact unique.1 (same ▸ List.mem_map_of_mem (f := Prod.fst) later)
        simp [different, ih unique.2 later]

theorem length_insertIn (key : κ) (value : ν) (entries : List (κ × ν)) :
    (insertIn key value entries).length =
      if (findIn key entries).isSome then entries.length else entries.length + 1 := by
  induction entries with
  | nil => simp [insertIn, findIn]
  | cons entry rest ih =>
      simp only [insertIn, findIn]
      by_cases same : entry.1 = key
      · simp [same]
      · simp only [same, ↓reduceIte, List.length_cons, ih]
        split <;> rfl

@[simp] theorem get?_empty (key : κ) : (empty : Table κ ν).get? key = none := rfl

omit [DecidableEq κ] in
@[simp] theorem size_empty : (empty : Table κ ν).size = 0 := rfl

theorem get?_of_size_zero {table : Table κ ν} (empty : table.size = 0) (key : κ) :
    table.get? key = none := by
  rw [get?, List.eq_nil_of_length_eq_zero empty]
  rfl

theorem get?_insert (table : Table κ ν) (key query : κ) (value : ν) :
    (table.insert key value).get? query = if key = query then some value else table.get? query :=
  findIn_insertIn key query value table.entries

@[simp] theorem get?_insert_self (table : Table κ ν) (key : κ) (value : ν) :
    (table.insert key value).get? key = some value := by
  simp [get?_insert]

theorem get?_insert_ne (table : Table κ ν) {key query : κ} (value : ν) (different : key ≠ query) :
    (table.insert key value).get? query = table.get? query := by
  simp [get?_insert, different]

@[simp] theorem get?_mapValues (f : κ → ν → ν) (table : Table κ ν) (query : κ) :
    (table.mapValues f).get? query = (table.get? query).map (f query) :=
  findIn_mapValues f query table.entries

theorem get?_erase (table : Table κ ν) (key query : κ) :
    (table.erase key).get? query = if key = query then none else table.get? query :=
  findIn_filter key query table.entries

theorem emplace_of_absent (table : Table κ ν) {key : κ} (value : ν)
    (absent : table.get? key = none) : table.emplace key value = table.insert key value := by
  simp [emplace, contains, absent]

/-- A key that is taken keeps its value. -/
theorem get?_emplace (table : Table κ ν) (key query : κ) (value : ν) :
    (table.emplace key value).get? query =
      (table.get? query).or (if key = query then some value else none) := by
  cases held : table.get? key with
  | none =>
      rw [emplace_of_absent table value held, get?_insert]
      split
      · rename_i here
        rw [← here, held]
        rfl
      · exact Option.or_none.symm
  | some old =>
      have same : table.emplace key value = table := by simp [emplace, contains, held]
      rw [same]
      split
      · rename_i here
        rw [← here, held]
        rfl
      · exact Option.or_none.symm

theorem mem_entries_iff (table : Table κ ν) (key : κ) (value : ν) :
    (key, value) ∈ table.entries ↔ table.get? key = some value :=
  ⟨findIn_of_mem table.nodup, findIn_some_mem⟩

theorem size_insert (table : Table κ ν) (key : κ) (value : ν) :
    (table.insert key value).size =
      if (table.get? key).isSome then table.size else table.size + 1 :=
  length_insertIn key value table.entries

theorem size_insert_le (table : Table κ ν) (key : κ) (value : ν) :
    (table.insert key value).size ≤ table.size + 1 := by
  rw [size_insert]
  split <;> omega

theorem size_emplace_le (table : Table κ ν) (key : κ) (value : ν) :
    (table.emplace key value).size ≤ table.size + 1 := by
  rw [emplace]
  split
  · omega
  · exact size_insert_le table key value

theorem values_insert_of_absent {table : Table κ ν} {key : κ} (value : ν)
    (absent : table.get? key = none) :
    (table.insert key value).values = table.values ++ [value] := by
  rw [get?] at absent
  simp only [values, insert]
  generalize table.entries = entries at absent
  induction entries with
  | nil => rfl
  | cons entry rest ih =>
      simp only [findIn] at absent
      split at absent
      · cases absent
      · rename_i elsewhere
        rw [insertIn, if_neg elsewhere, List.map_cons, List.map_cons, ih absent, List.cons_append]

omit [DecidableEq κ] in
@[simp] theorem size_mapValues (f : κ → ν → ν) (table : Table κ ν) :
    (table.mapValues f).size = table.size := by
  simp [size, mapValues]

/-! Keys. -/

def keys (table : Table κ ν) : List κ := table.entries.map Prod.fst

omit [DecidableEq κ] in
theorem nodup_keys (table : Table κ ν) : table.keys.Nodup := table.nodup

omit [DecidableEq κ] in
theorem length_keys (table : Table κ ν) : table.keys.length = table.size := List.length_map _

theorem mem_keys_iff (table : Table κ ν) (key : κ) :
    key ∈ table.keys ↔ table.contains key = true := by
  rw [contains, Option.isSome_iff_exists, keys, List.mem_map]
  constructor
  · rintro ⟨⟨found, value⟩, listed, rfl⟩
    exact ⟨value, (mem_entries_iff _ _ _).mp listed⟩
  · rintro ⟨value, held⟩
    exact ⟨(key, value), (mem_entries_iff _ _ _).mpr held, rfl⟩

theorem keys_emplace_of_absent {table : Table κ ν} {key : κ} (value : ν)
    (absent : table.get? key = none) : (table.emplace key value).keys = table.keys ++ [key] := by
  rw [emplace_of_absent table value absent]
  rw [get?] at absent
  simp only [keys, insert]
  generalize table.entries = entries at absent
  induction entries with
  | nil => rfl
  | cons entry rest ih =>
      simp only [findIn] at absent
      split at absent
      · cases absent
      · rename_i other
        simp only [insertIn, other, ↓reduceIte, List.map_cons, List.cons_append, ih absent]

theorem keys_erase (table : Table κ ν) (key : κ) :
    (table.erase key).keys = table.keys.erase key := by
  rw [table.nodup_keys.erase_eq_filter, keys, keys, erase, List.filter_map]
  congr 1
/-! The same keys with every value replaced. -/

variable {μ : Type}

def map (f : ν → μ) (table : Table κ ν) : Table κ μ :=
  ⟨table.entries.map fun entry => (entry.1, f entry.2), by
    rw [List.map_map]
    exact table.nodup⟩

omit [DecidableEq κ] in
theorem eq_of_entries {first second : Table κ ν} (same : first.entries = second.entries) :
    first = second := by
  cases first
  cases second
  cases same
  rfl

@[simp] theorem get?_map (f : ν → μ) (table : Table κ ν) (key : κ) :
    (table.map f).get? key = (table.get? key).map f := by
  rw [get?, get?, map]
  simp only []
  induction table.entries with
  | nil => rfl
  | cons entry rest ih =>
      simp only [List.map_cons, findIn, ih]
      split <;> rfl

omit [DecidableEq κ] in
@[simp] theorem size_map (f : ν → μ) (table : Table κ ν) : (table.map f).size = table.size := by
  simp [size, map]

omit [DecidableEq κ] in
@[simp] theorem values_map (f : ν → μ) (table : Table κ ν) :
    (table.map f).values = table.values.map f := by
  simp [values, map, Function.comp_def]

theorem map_insert (f : ν → μ) (table : Table κ ν) (key : κ) (value : ν) :
    (table.insert key value).map f = (table.map f).insert key (f value) := by
  refine eq_of_entries ?_
  simp only [map, insert]
  induction table.entries with
  | nil => rfl
  | cons entry rest ih =>
      simp only [insertIn, List.map_cons]
      split
      · rfl
      · rw [List.map_cons, ih]

theorem map_emplace (f : ν → μ) (table : Table κ ν) (key : κ) (value : ν) :
    (table.emplace key value).map f = (table.map f).emplace key (f value) := by
  have same : (table.map f).contains key = table.contains key := by simp [contains]
  rw [emplace, emplace, same]
  split
  · rfl
  · exact map_insert f table key value

/-- Writing back what is already there changes nothing. -/
theorem insert_of_get? {table : Table κ ν} {key : κ} {value : ν}
    (found : table.get? key = some value) : table.insert key value = table := by
  refine eq_of_entries ?_
  rw [get?] at found
  simp only [insert]
  generalize table.entries = entries at found
  induction entries with
  | nil => simp [findIn] at found
  | cons entry rest ih =>
      simp only [findIn] at found
      simp only [insertIn]
      split at found
      · rename_i here
        rw [if_pos here]
        rw [Option.some.injEq] at found
        rw [← found]
      · rename_i elsewhere
        rw [if_neg elsewhere, ih found]

/-! Entries inserted one after another. -/

def insertAll (table : Table κ ν) (entries : List (κ × ν)) : Table κ ν :=
  entries.foldl (fun table entry => table.insert entry.1 entry.2) table

theorem insertAll_cons (table : Table κ ν) (entry : κ × ν) (rest : List (κ × ν)) :
    table.insertAll (entry :: rest) = (table.insert entry.1 entry.2).insertAll rest := rfl

theorem get?_insertAll (table : Table κ ν) {entries : List (κ × ν)}
    (distinct : (entries.map Prod.fst).Nodup) (key : κ) (value : ν) :
    (table.insertAll entries).get? key = some value ↔
      (key, value) ∈ entries ∨ key ∉ entries.map Prod.fst ∧ table.get? key = some value := by
  induction entries generalizing table with
  | nil => simp [insertAll]
  | cons entry rest ih =>
      rw [List.map_cons, List.nodup_cons] at distinct
      have step : table.insertAll (entry :: rest) =
          (table.insert entry.1 entry.2).insertAll rest := rfl
      rw [step, ih _ distinct.2, get?_insert, List.mem_cons, List.map_cons, List.mem_cons, not_or]
      by_cases here : entry.1 = key
      · subst here
        rw [if_pos rfl]
        constructor
        · rintro (later | ⟨_, same⟩)
          · exact absurd (List.mem_map_of_mem later) distinct.1
          · exact .inl (.inl (Prod.ext rfl (Option.some.inj same).symm))
        · rintro ((same | later) | ⟨⟨different, _⟩, _⟩)
          · exact .inr ⟨distinct.1, by rw [← same]⟩
          · exact .inl later
          · exact absurd rfl different
      · rw [if_neg here]
        constructor
        · rintro (later | ⟨absent, held⟩)
          · exact .inl (.inr later)
          · exact .inr ⟨⟨fun same => here same.symm, absent⟩, held⟩
        · rintro ((same | later) | ⟨⟨_, absent⟩, held⟩)
          · exact absurd (congrArg Prod.fst same).symm here
          · exact .inl later
          · exact .inr ⟨absent, held⟩

/-- Inserting the entries of a table in any order rebuilds it, value by value. -/
theorem get?_rebuilt (table : Table κ ν) {entries : List (κ × ν)}
    (listed : entries.Perm table.entries) (f : ν → μ) (key : κ) :
    ((empty : Table κ μ).insertAll (entries.map fun entry => (entry.1, f entry.2))).get? key =
      (table.get? key).map f := by
  have distinct : ((entries.map fun entry => (entry.1, f entry.2)).map Prod.fst).Nodup := by
    rw [List.map_map]
    exact ((listed.map Prod.fst).nodup_iff).mpr table.nodup
  refine Option.ext fun value => ?_
  rw [get?_insertAll _ distinct, Option.map_eq_some_iff]
  simp only [List.mem_map, Prod.mk.injEq, get?_empty, reduceCtorEq, and_false, or_false]
  constructor
  · rintro ⟨⟨other, old⟩, member, rfl, rfl⟩
    exact ⟨old, (mem_entries_iff table _ _).mp (listed.mem_iff.mp member), rfl⟩
  · rintro ⟨old, found, rfl⟩
    exact ⟨(key, old), listed.mem_iff.mpr ((mem_entries_iff table _ _).mpr found), rfl, rfl⟩

/-! Two tables over the same keys, in the same order, with related values. -/

def Related (relation : ν → ν → Prop) (before after : Table κ ν) : Prop :=
  List.Forall₂ (fun first second => first.1 = second.1 ∧ relation first.2 second.2)
    before.entries after.entries

section Related

variable {relation : ν → ν → Prop}

omit [DecidableEq κ] in
theorem related_refl (reflexive : ∀ value, relation value value) (table : Table κ ν) :
    Related relation table table := by
  rw [Related, List.forall₂_same]
  exact fun entry _ => ⟨rfl, reflexive entry.2⟩

omit [DecidableEq κ] in
theorem Related.trans {first second third : Table κ ν}
    (transitive : ∀ a b c, relation a b → relation b c → relation a c)
    (one : Related relation first second) (two : Related relation second third) :
    Related relation first third := by
  rw [Related] at one two ⊢
  generalize first.entries = start at one
  generalize second.entries = middle at one two
  generalize third.entries = last at two
  induction one generalizing last with
  | nil =>
      cases two
      exact .nil
  | cons head tail ih =>
      cases two with
      | cons next rest =>
          exact .cons ⟨head.1.trans next.1, transitive _ _ _ head.2 next.2⟩ (ih _ rest)

omit [DecidableEq κ] in
theorem Related.symm {before after : Table κ ν} (related : Related relation before after) :
    Related (fun first second => relation second first) after before :=
  List.Forall₂.flip (List.Forall₂.imp (fun _ _ pair => ⟨pair.1.symm, pair.2⟩) related)

omit [DecidableEq κ] in
theorem Related.imp {weaker : ν → ν → Prop} {before after : Table κ ν}
    (related : Related relation before after)
    (implies : ∀ first second, relation first second → weaker first second) :
    Related weaker before after :=
  List.Forall₂.imp (fun _ _ pair => ⟨pair.1, implies _ _ pair.2⟩) related

omit [DecidableEq κ] in
theorem Related.size_eq {before after : Table κ ν} (related : Related relation before after) :
    after.size = before.size := (List.Forall₂.length_eq related).symm

omit [DecidableEq κ] in
theorem related_mapValues {f : κ → ν → ν} (table : Table κ ν)
    (kept : ∀ key value, relation value (f key value)) :
    Related relation table (table.mapValues f) := by
  rw [Related, mapValues]
  simp only [List.forall₂_map_right_iff, List.forall₂_same]
  exact fun entry _ => ⟨trivial, kept entry.1 entry.2⟩

theorem related_insert (reflexive : ∀ value, relation value value) {table : Table κ ν} {key : κ}
    {old new : ν} (found : table.get? key = some old) (kept : relation old new) :
    Related relation table (table.insert key new) := by
  rw [get?] at found
  rw [Related, insert]
  simp only []
  generalize table.entries = entries at found
  induction entries with
  | nil => simp [findIn] at found
  | cons entry rest ih =>
      simp only [findIn] at found
      simp only [insertIn]
      split at found
      · rename_i same
        rw [if_pos same]
        rw [Option.some.injEq] at found
        refine .cons ⟨rfl, found ▸ kept⟩ ?_
        rw [List.forall₂_same]
        exact fun other _ => ⟨rfl, reflexive other.2⟩
      · rename_i different
        rw [if_neg different]
        exact .cons ⟨rfl, reflexive entry.2⟩ (ih found)

/-- A value found afterwards stood for a related value before. -/
theorem Related.get? {before after : Table κ ν} (related : Related relation before after)
    {key : κ} {value : ν} (found : after.get? key = some value) :
    ∃ old, before.get? key = some old ∧ relation old value := by
  rw [Related] at related
  rw [Table.get?] at found ⊢
  generalize before.entries = first at related
  generalize after.entries = second at related found
  induction related with
  | nil => simp [findIn] at found
  | cons head tail ih =>
      obtain ⟨same, kept⟩ := head
      simp only [findIn] at found ⊢
      rw [same]
      split at found
      · rename_i here
        rw [if_pos here]
        rw [Option.some.injEq] at found
        exact ⟨_, rfl, found ▸ kept⟩
      · rename_i elsewhere
        rw [if_neg elsewhere]
        exact ih found

/-- Related tables answer every lookup with related values. -/
theorem Related.find {before after : Table κ ν} (related : Related relation before after)
    (key : κ) : Option.Rel relation (before.get? key) (after.get? key) := by
  rw [Related] at related
  rw [Table.get?, Table.get?]
  generalize before.entries = first at related
  generalize after.entries = second at related
  induction related with
  | nil => exact .none
  | cons head tail ih =>
      simp only [findIn, head.1]
      split
      · exact .some head.2
      · exact ih

/-- Related values go under the same key. -/
theorem Related.insert {before after : Table κ ν} (related : Related relation before after)
    (key : κ) {first second : ν} (kept : relation first second) :
    Related relation (before.insert key first) (after.insert key second) := by
  rw [Related] at related ⊢
  simp only [Table.insert]
  generalize before.entries = start at related
  generalize after.entries = last at related
  induction related with
  | nil => exact .cons ⟨rfl, kept⟩ .nil
  | cons head tail ih =>
      simp only [insertIn, head.1]
      split
      · exact .cons ⟨rfl, kept⟩ tail
      · exact .cons ⟨rfl, head.2⟩ ih

theorem Related.emplace {before after : Table κ ν} (related : Related relation before after)
    (key : κ) {first second : ν} (kept : relation first second) :
    Related relation (before.emplace key first) (after.emplace key second) := by
  have here : after.contains key = before.contains key := by
    have found := related.find key
    rw [contains, contains]
    generalize before.get? key = old at found
    generalize after.get? key = new at found
    cases found with
    | none => rfl
    | some _ => rfl
  rw [Table.emplace, Table.emplace, here]
  split
  · exact related
  · exact related.insert key kept

omit [DecidableEq κ] in
/-- A count that reads what is related alike. -/
theorem Related.countP_values {counted : ν → Bool} {before after : Table κ ν}
    (related : Related relation before after)
    (same : ∀ first second, relation first second → counted second = counted first) :
    after.values.countP counted = before.values.countP counted := by
  rw [Related] at related
  simp only [values]
  generalize before.entries = start at related
  generalize after.entries = last at related
  induction related with
  | nil => rfl
  | cons head tail ih =>
      rw [List.map_cons, List.map_cons, List.countP_cons, List.countP_cons, ih, same _ _ head.2]

omit [DecidableEq κ] in
theorem Related.map_eq {f : ν → μ} {before after : Table κ ν}
    (related : Related relation before after)
    (same : ∀ first second, relation first second → f second = f first) :
    after.map f = before.map f := by
  rw [Related] at related
  refine eq_of_entries ?_
  simp only [map]
  generalize before.entries = start at related
  generalize after.entries = last at related
  induction related with
  | nil => rfl
  | cons head tail ih =>
      obtain ⟨key, kept⟩ := head
      rw [List.map_cons, List.map_cons, ih, key, same _ _ kept]

end Related

end Table
