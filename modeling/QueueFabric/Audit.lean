import QueueFabric.Fencing
import QueueFabric.TableCases

/-!
The structural audit of a fabric. From a recovery on an empty store on, every
call keeps the queues, their name index, the resources and the queue records
consistent; the identity counters stay ahead of what they issued until they wrap.
-/

namespace QueueFabric

open QueueRecord Fabric

/-! The queue table and its name index. -/

structure Indexed (tables : Tables) : Prop where
  keyed : ∀ id queue, tables.queues.get? id = some queue → queue.definition.id = id
  numbered : ∀ id queue, tables.queues.get? id = some queue →
    id.value.toNat ≤ tables.queues.size
  next : tables.nextQueueId = UInt64.ofNat (tables.queues.size + 1)
  room : tables.queues.size ≤ tables.config.limits.maxQueuesTotal.toNat
  named : ∀ key id, tables.queueNames.get? key = some id ↔ ∃ queue,
    tables.queues.get? id = some queue ∧
      key = nameKey queue.definition.resource queue.definition.name

namespace Indexed

variable {before after : Tables}

theorem fresh (indexed : Indexed before)
    (room : before.queues.size < before.config.limits.maxQueuesTotal.toNat) :
    before.queues.get? ⟨before.nextQueueId⟩ = none ∧
      before.nextQueueId.toNat = before.queues.size + 1 := by
  have small := before.config.limits.maxQueuesTotal.toNat_lt
  have value : before.nextQueueId.toNat = before.queues.size + 1 := by
    rw [indexed.next, UInt64.toNat_ofNat']
    exact Nat.mod_eq_of_lt (by omega)
  refine ⟨?_, value⟩
  cases taken : before.queues.get? ⟨before.nextQueueId⟩ with
  | none => rfl
  | some queue =>
      have below := indexed.numbered _ queue taken
      simp only [value] at below
      omega

theorem moved (indexed : Indexed before)
    (queues : Table.Related Identical before.queues after.queues)
    (names : after.queueNames = before.queueNames) (next : after.nextQueueId = before.nextQueueId)
    (config : after.config = before.config) : Indexed after := by
  have size := queues.size_eq
  refine ⟨?_, ?_, ?_, ?_, ?_⟩
  · intro id queue found
    obtain ⟨old, stored, identical⟩ := queues.get? found
    rw [identical.id]
    exact indexed.keyed id old stored
  · intro id queue found
    obtain ⟨old, stored, _⟩ := queues.get? found
    rw [size]
    exact indexed.numbered id old stored
  · rw [next, size]
    exact indexed.next
  · rw [size, config]
    exact indexed.room
  · intro key id
    rw [names, indexed.named]
    constructor
    · rintro ⟨old, stored, rfl⟩
      obtain ⟨queue, found, identical⟩ := queues.symm.get? stored
      exact ⟨queue, found, by rw [identical.resource, identical.name]⟩
    · rintro ⟨queue, found, rfl⟩
      obtain ⟨old, stored, identical⟩ := queues.get? found
      exact ⟨old, stored, by rw [identical.resource, identical.name]⟩

theorem declared (indexed : Indexed before) {payload : DeclareQueuePayload}
    {resource : ResourceRecord} {record : QueueRecord}
    (free : before.queueNames.get? (nameKey payload.resource payload.name) = none)
    (admissible : Fabric.Admissible before.config before.queues payload resource)
    (origin : DeclaredFrom payload ⟨before.nextQueueId⟩ record)
    (queues : after.queues = before.queues.emplace ⟨before.nextQueueId⟩ record)
    (names : after.queueNames = before.queueNames.emplace
      (nameKey payload.resource payload.name) ⟨before.nextQueueId⟩)
    (next : after.nextQueueId = before.nextQueueId + 1) (config : after.config = before.config) :
    Indexed after := by
  obtain ⟨absent, value⟩ := indexed.fresh admissible.room
  rw [Table.emplace_of_absent _ _ absent] at queues
  rw [Table.emplace_of_absent _ _ free] at names
  have size : after.queues.size = before.queues.size + 1 := by
    rw [queues, Table.size_insert, absent]
    rfl
  have key : nameKey record.definition.resource record.definition.name =
      nameKey payload.resource payload.name := by rw [origin.resource, origin.name]
  refine ⟨?_, ?_, ?_, ?_, ?_⟩
  · intro id queue found
    rw [queues, Table.get?_insert] at found
    split at found
    · rename_i here
      cases found
      rw [← here, origin.id]
    · exact indexed.keyed id queue found
  · intro id queue found
    rw [size]
    rw [queues, Table.get?_insert] at found
    split at found
    · rename_i here
      rw [← here, value]
    · have below := indexed.numbered id queue found
      omega
  · rw [next, size, indexed.next]
    exact (UInt64.ofNat_add _ 1).symm
  · rw [size, config]
    exact admissible.room
  · intro other id
    rw [names, queues, Table.get?_insert, Table.get?_insert]
    by_cases here : (⟨before.nextQueueId⟩ : QueueId) = id
    · subst here
      simp only [↓reduceIte, Option.some.injEq, exists_eq_left', key]
      constructor
      · intro found
        split at found
        · rename_i same
          exact same.symm
        · obtain ⟨queue, stored, _⟩ := (indexed.named _ _).mp found
          rw [absent] at stored
          cases stored
      · rintro rfl
        rw [if_pos rfl]
    · rw [if_neg here]
      by_cases same : nameKey payload.resource payload.name = other
      · subst same
        simp only [↓reduceIte, Option.some.injEq, here, false_iff]
        intro taken
        rw [← indexed.named, free] at taken
        cases taken
      · rw [if_neg same]
        exact indexed.named other id

theorem step (indexed : Indexed before) (step : TableStep before after) : Indexed after := by
  cases step with
  | moved queues rest =>
      rw [rest]
      exact indexed.moved queues rfl rfl rfl
  | declared payload resource record found free admissible origin rest =>
      rw [rest]
      exact indexed.declared free admissible origin rfl rfl rfl rfl
  | tended queues names next config topology =>
      exact indexed.moved (queues.imp fun _ _ same => same.identical) names next config

end Indexed

/-! The resources and what the queues take from them. -/

structure Housed (tables : Tables) : Prop where
  numbered : ∀ id record, tables.resources.get? id = some record →
    id.value.toNat ≤ tables.resources.size
  next : tables.identities.resource = UInt64.ofNat (tables.resources.size + 1)
  room : tables.resources.size ≤ tables.config.limits.maxResources.toNat
  home : ∀ id queue, tables.queues.get? id = some queue →
    ∃ record, tables.resources.get? queue.definition.resource = some record
  counted : ∀ id record, tables.resources.get? id = some record →
    record.queueCount.toNat = resourceQueues tables.queues id
  epochs : ∀ id record, tables.resources.get? id = some record →
    record.authority.epoch = tables.epoch

theorem resourceQueues_related {before after : Table QueueId QueueRecord}
    (queues : Table.Related Identical before after) (id : ResourceId) :
    resourceQueues after id = resourceQueues before id := by
  have homes : after.values.map (·.definition.resource) =
      before.values.map (·.definition.resource) := by
    rw [← Table.values_map, ← Table.values_map]
    exact congrArg Table.values (queues.map_eq fun _ _ identical => identical.resource)
  have counted : ∀ table : Table QueueId QueueRecord, resourceQueues table id =
      (table.values.map (·.definition.resource)).countP (· = id) := by
    intro table
    rw [List.countP_map]
    rfl
  rw [counted, counted, homes]

theorem resourceQueues_insert {queues : Table QueueId QueueRecord} {id : QueueId}
    (record : QueueRecord) (absent : queues.get? id = none) (resource : ResourceId) :
    resourceQueues (queues.insert id record) resource =
      resourceQueues queues resource +
        if record.definition.resource = resource then 1 else 0 := by
  rw [resourceQueues, Table.values_insert_of_absent record absent, List.countP_append]
  simp [resourceQueues, List.countP_cons]

theorem resourceQueues_eq_zero {queues : Table QueueId QueueRecord} {resource : ResourceId}
    (empty : ∀ id queue, queues.get? id = some queue → queue.definition.resource ≠ resource) :
    resourceQueues queues resource = 0 := by
  rw [resourceQueues, List.countP_eq_zero]
  intro queue listed
  rw [Table.values, List.mem_map] at listed
  obtain ⟨⟨id, stored⟩, member, rfl⟩ := listed
  simpa using empty id stored ((Table.mem_entries_iff _ _ _).mp member)

namespace Housed

variable {before after : Tables}

theorem fresh (housed : Housed before)
    (room : before.resources.size < before.config.limits.maxResources.toNat) :
    before.resources.get? ⟨before.identities.resource⟩ = none ∧
      before.identities.resource.toNat = before.resources.size + 1 := by
  have small := before.config.limits.maxResources.toNat_lt
  have value : before.identities.resource.toNat = before.resources.size + 1 := by
    rw [housed.next, UInt64.toNat_ofNat']
    exact Nat.mod_eq_of_lt (by omega)
  refine ⟨?_, value⟩
  cases taken : before.resources.get? ⟨before.identities.resource⟩ with
  | none => rfl
  | some record =>
      have below := housed.numbered _ record taken
      simp only [value] at below
      omega

theorem moved (housed : Housed before)
    (queues : Table.Related Identical before.queues after.queues)
    (rest : after = { before with queues := after.queues }) : Housed after := by
  rw [rest]
  refine ⟨housed.numbered, housed.next, housed.room, ?_, ?_, housed.epochs⟩
  · intro id queue found
    obtain ⟨old, stored, identical⟩ := queues.get? found
    rw [identical.resource]
    exact housed.home id old stored
  · intro id record found
    rw [show resourceQueues after.queues id = resourceQueues before.queues id from
      resourceQueues_related queues id]
    exact housed.counted id record found

theorem declared (housed : Housed before) {payload : DeclareQueuePayload}
    {resource : ResourceRecord} {record : QueueRecord}
    (found : before.resources.get? payload.resource = some resource)
    (absent : before.queues.get? ⟨before.nextQueueId⟩ = none)
    (admissible : Fabric.Admissible before.config before.queues payload resource)
    (origin : DeclaredFrom payload ⟨before.nextQueueId⟩ record)
    (rest : after = { before with
      queues := before.queues.emplace ⟨before.nextQueueId⟩ record
      queueNames := before.queueNames.emplace (nameKey payload.resource payload.name)
        ⟨before.nextQueueId⟩
      nextQueueId := before.nextQueueId + 1
      resources := before.resources.insert payload.resource
        { resource with queueCount := resource.queueCount + 1 } }) : Housed after := by
  rw [rest, Table.emplace_of_absent _ _ absent]
  have size : (before.resources.insert payload.resource
      { resource with queueCount := resource.queueCount + 1 }).size = before.resources.size := by
    rw [Table.size_insert, found]
    rfl
  refine ⟨?_, ?_, ?_, ?_, ?_, ?_⟩
  · intro id updated stored
    rw [size]
    rw [Table.get?_insert] at stored
    split at stored
    · rename_i here
      exact here ▸ housed.numbered _ resource found
    · exact housed.numbered id updated stored
  · rw [size]
    exact housed.next
  · rw [size]
    exact housed.room
  · intro id queue stored
    simp only [Table.get?_insert] at stored ⊢
    split at stored
    · cases stored
      rw [origin.resource, if_pos rfl]
      exact ⟨_, rfl⟩
    · split
      · exact ⟨_, rfl⟩
      · exact housed.home id queue stored
  · intro id updated stored
    have few := admissible.few
    have limit := before.config.limits.maxQueuesPerResource.toNat_lt
    have counted := housed.counted _ resource found
    simp only [resourceQueues_insert record absent, origin.resource]
    rw [Table.get?_insert] at stored
    split at stored
    · rename_i here
      cases stored
      simp only [← here, ↓reduceIte]
      rw [UInt64.toNat_add, counted]
      exact Nat.mod_eq_of_lt (by simp only [UInt64.toNat_one]; omega)
    · rename_i elsewhere
      rw [if_neg elsewhere]
      exact housed.counted id updated stored
  · intro id updated stored
    rw [Table.get?_insert] at stored
    split at stored
    · cases stored
      exact housed.epochs _ resource found
    · exact housed.epochs id updated stored

theorem topology (housed : Housed before)
    (queues : Table.Related Identical before.queues after.queues)
    (config : after.config = before.config) (topology : TopologyStep before after) :
    Housed after := by
  have count : ∀ id, resourceQueues after.queues id = resourceQueues before.queues id :=
    resourceQueues_related queues
  have home : ∀ id queue, after.queues.get? id = some queue →
      ∃ record, before.resources.get? queue.definition.resource = some record := by
    intro id queue found
    obtain ⟨old, stored, identical⟩ := queues.get? found
    rw [identical.resource]
    exact housed.home id old stored
  cases topology with
  | kept resources epoch number spent =>
      refine ⟨?_, ?_, ?_, ?_, ?_, ?_⟩
      · rw [resources]
        exact housed.numbered
      · rw [number, resources]
        exact housed.next
      · rw [resources, config]
        exact housed.room
      · rw [resources]
        exact home
      · intro id record found
        rw [count]
        exact housed.counted id record (resources ▸ found)
      · rw [resources, epoch]
        exact housed.epochs
  | edited key record updated found resources epoch number kept authority issued =>
      have size : after.resources.size = before.resources.size := by
        rw [resources, Table.size_insert, found]
        rfl
      -- what the edited record shares with the old one holds of every record
      have shared : ∀ {id other}, after.resources.get? id = some other → ∃ old,
          before.resources.get? id = some old ∧ other.queueCount = old.queueCount ∧
            other.authority.epoch = old.authority.epoch := by
        intro id other stored
        rw [resources, Table.get?_insert] at stored
        split at stored
        · rename_i here
          cases stored
          exact ⟨record, here ▸ found, kept, authority⟩
        · exact ⟨other, stored, rfl, rfl⟩
      refine ⟨?_, ?_, ?_, ?_, ?_, ?_⟩
      · intro id other stored
        obtain ⟨old, earlier, _⟩ := shared stored
        rw [size]
        exact housed.numbered id old earlier
      · rw [number, size]
        exact housed.next
      · rw [size, config]
        exact housed.room
      · intro id queue stored
        rw [resources, Table.get?_insert]
        split
        · exact ⟨updated, rfl⟩
        · exact home id queue stored
      · intro id other stored
        obtain ⟨old, earlier, same, _⟩ := shared stored
        rw [same, count]
        exact housed.counted id old earlier
      · intro id other stored
        obtain ⟨old, earlier, _, same⟩ := shared stored
        rw [same, epoch]
        exact housed.epochs id old earlier
  | declared record room resources epoch number kept authority unissued same =>
      obtain ⟨absent, value⟩ := housed.fresh room
      rw [Table.emplace_of_absent _ _ absent] at resources
      have size : after.resources.size = before.resources.size + 1 := by
        rw [resources, Table.size_insert, absent]
        rfl
      refine ⟨?_, ?_, ?_, ?_, ?_, ?_⟩
      · intro id other stored
        rw [size]
        rw [resources, Table.get?_insert] at stored
        split at stored
        · rename_i here
          rw [← here, value]
        · have below := housed.numbered id other stored
          omega
      · rw [number, size, housed.next]
        exact (UInt64.ofNat_add _ 1).symm
      · rw [size, config]
        exact room
      · intro id queue stored
        rw [resources, Table.get?_insert]
        split
        · exact ⟨record, rfl⟩
        · exact home id queue stored
      · intro id other stored
        rw [count]
        rw [resources, Table.get?_insert] at stored
        split at stored
        · rename_i here
          cases stored
          rw [kept, ← here]
          refine (resourceQueues_eq_zero fun key queue lodged elsewhere => ?_).symm
          obtain ⟨owner, lives⟩ := housed.home key queue lodged
          rw [elsewhere, absent] at lives
          cases lives
        · exact housed.counted id other stored
      · intro id other stored
        rw [epoch]
        rw [resources, Table.get?_insert] at stored
        split at stored
        · cases stored
          exact authority
        · exact housed.epochs id other stored
  | advanced epoch resources entered identities =>
      have size : after.resources.size = before.resources.size := by
        rw [resources, Table.size_mapValues]
      have entry : ∀ {id record}, after.resources.get? id = some record →
          ∃ old, before.resources.get? id = some old ∧ record = withEpoch epoch old := by
        intro id record stored
        rw [resources, Table.get?_mapValues] at stored
        obtain ⟨old, earlier, same⟩ := Option.map_eq_some_iff.mp stored
        exact ⟨old, earlier, same.symm⟩
      refine ⟨?_, ?_, ?_, ?_, ?_, ?_⟩
      · intro id record stored
        obtain ⟨old, earlier, _⟩ := entry stored
        rw [size]
        exact housed.numbered id old earlier
      · rw [identities, size]
        exact housed.next
      · rw [size, config]
        exact housed.room
      · intro id queue stored
        obtain ⟨record, lives⟩ := home id queue stored
        rw [resources, Table.get?_mapValues, lives]
        exact ⟨_, rfl⟩
      · intro id record stored
        obtain ⟨old, earlier, rfl⟩ := entry stored
        rw [count]
        exact housed.counted id old earlier
      · intro id record stored
        obtain ⟨old, earlier, rfl⟩ := entry stored
        rw [entered]
        rfl

theorem step (housed : Housed before) (indexed : Indexed before) (step : TableStep before after) :
    Housed after := by
  cases step with
  | moved queues rest => exact housed.moved queues rest
  | declared payload resource record found free admissible origin rest =>
      exact housed.declared found (indexed.fresh admissible.room).1 admissible origin rest
  | tended queues names next config topology =>
      exact housed.topology (queues.imp fun _ _ same => same.identical) config topology

end Housed

/-! The identity counters. -/

/-- Counters that stayed within their range: `calls` bounds what was issued so far. -/
structure Ahead (calls : Nat) (tables : Tables) : Prop where
  queues : tables.queues.size ≤ calls
  resources : tables.resources.size ≤ calls
  next : ∀ series : Series, (series.next tables.identities).toNat ≤ calls + 1
  below : ∀ (series : Series) id record, tables.resources.get? id = some record →
    ∀ number ∈ series.ids record, number < series.next tables.identities

theorem Spends.le {before after : UInt64} (spends : Spends before after)
    (small : before.toNat + 1 < 2 ^ 64) :
    before ≤ after ∧ after.toNat ≤ before.toNat + 1 := by
  rcases spends with rfl | rfl
  · exact ⟨UInt64.le_refl _, Nat.le_succ _⟩
  · rw [UInt64.le_iff_toNat_le, UInt64.toNat_add, UInt64.toNat_one, Nat.mod_eq_of_lt small]
    exact ⟨Nat.le_succ _, Nat.le_refl _⟩

theorem Issued.below {before after : List UInt64} {next spent : UInt64}
    (issued : Issued before after next spent) (small : next.toNat + 1 < 2 ^ 64)
    (below : ∀ number ∈ before, number < next) : ∀ number ∈ after, number < spent := by
  have larger := (issued.spends.le small).1
  intro number held
  rcases issued with ⟨rfl, _⟩ | ⟨rfl, rfl⟩
  · exact UInt64.lt_of_lt_of_le (below number held) larger
  · rcases List.mem_append.mp held with old | new
    · exact UInt64.lt_of_lt_of_le (below number old) larger
    · rw [List.mem_singleton] at new
      rw [new, UInt64.lt_iff_toNat_lt, UInt64.toNat_add, UInt64.toNat_one, Nat.mod_eq_of_lt small]
      exact Nat.lt_succ_self _

theorem TopologyStep.ahead {before after : Tables} (step : TopologyStep before after)
    {series : Series} (small : (series.next before.identities).toNat + 1 < 2 ^ 64)
    (below : ∀ id record, before.resources.get? id = some record →
      ∀ number ∈ series.ids record, number < series.next before.identities) :
    (series.next after.identities).toNat ≤ (series.next before.identities).toNat + 1 ∧
      after.resources.size ≤ before.resources.size + 1 ∧
      ∀ id record, after.resources.get? id = some record →
        ∀ number ∈ series.ids record, number < series.next after.identities := by
  cases step with
  | kept resources epoch number spent =>
      obtain ⟨larger, next⟩ := (spent series).le small
      refine ⟨next, by rw [resources]; omega, fun id record found number held => ?_⟩
      rw [resources] at found
      exact UInt64.lt_of_lt_of_le (below id record found number held) larger
  | edited key record updated found resources epoch number kept authority issued =>
      obtain ⟨larger, next⟩ := (issued series).spends.le small
      refine ⟨next, ?_, fun id other stored number held => ?_⟩
      · rw [resources]
        exact Table.size_insert_le ..
      · rw [resources, Table.get?_insert] at stored
        split at stored
        · cases stored
          exact (issued series).below small (below key record found) number held
        · exact UInt64.lt_of_lt_of_le (below id other stored number held) larger
  | declared record room resources epoch number count authority unissued kept =>
      rw [kept series]
      refine ⟨Nat.le_succ _, ?_, fun id other stored number held => ?_⟩
      · rw [resources]
        exact Table.size_emplace_le ..
      · rw [resources, Table.get?_emplace, Option.or_eq_some_iff] at stored
        rcases stored with old | ⟨_, new⟩
        · exact below id other old number held
        · split at new
          · cases new
            rw [unissued series] at held
            cases held
          · cases new
  | advanced epoch resources entered identities =>
      rw [identities]
      refine ⟨Nat.le_succ _, ?_, fun id record stored number held => ?_⟩
      · rw [resources, Table.size_mapValues]
        omega
      · rw [resources, Table.get?_mapValues] at stored
        obtain ⟨old, earlier, rfl⟩ := Option.map_eq_some_iff.mp stored
        refine below id old earlier number ?_
        cases series <;> exact held

namespace Ahead

variable {calls : Nat} {before after : Tables}

theorem step (ahead : Ahead calls before) (small : calls + 2 < 2 ^ 64)
    (step : TableStep before after) : Ahead (calls + 1) after := by
  have queueRoom := ahead.queues
  have resourceRoom := ahead.resources
  cases step with
  | moved queues rest =>
      rw [rest]
      refine ⟨?_, Nat.le_succ_of_le ahead.resources, fun series => ?_, ahead.below⟩
      · exact queues.size_eq.trans_le (Nat.le_succ_of_le ahead.queues)
      · exact Nat.le_succ_of_le (ahead.next series)
  | declared payload resource record found free admissible origin rest =>
      rw [rest]
      refine ⟨?_, ?_, fun series => ?_, fun series id other stored number held => ?_⟩
      · exact (Table.size_emplace_le ..).trans (by omega)
      · exact (Table.size_insert_le ..).trans (by omega)
      · exact Nat.le_succ_of_le (ahead.next series)
      · rw [Table.get?_insert] at stored
        split at stored
        · cases stored
          refine ahead.below series _ resource found number ?_
          cases series <;> exact held
        · exact ahead.below series id other stored number held
  | tended queues names next config topology =>
      have moved : ∀ series : Series, _ := fun series =>
        topology.ahead (by have bound := ahead.next series; omega) (ahead.below series)
      refine ⟨?_, ?_, fun series => ?_, fun series => (moved series).2.2⟩
      · rw [queues.size_eq]
        omega
      · exact (moved .cls).2.1.trans (by omega)
      · have bound := ahead.next series
        exact (moved series).1.trans (by omega)

end Ahead

/-! Queue records. -/

namespace QueueRecord

/-- One entry an attempt, and no more entries than the configured bound. -/
structure Distinct (limit : UInt64) (memo : List AttemptMemo) : Prop where
  unique : (memo.map (·.attempt)).Nodup
  few : memo.length ≤ limit.toNat

theorem Distinct.remember {limit : UInt64} {memo : List AttemptMemo}
    (distinct : Distinct limit memo) (entry : AttemptMemo) :
    Distinct limit (rememberIn memo entry limit) := by
  have few := distinct.few
  rw [rememberIn]
  split
  · exact distinct
  rename_i nonzero
  have positive : 0 < limit.toNat := by
    rw [Nat.pos_iff_ne_zero]
    exact fun zero => nonzero (UInt64.toNat_inj.mp zero)
  split
  · rename_i replaced found
    have attempts := replaceMemo_attempts found
    refine ⟨attempts ▸ distinct.unique, ?_⟩
    have length := congrArg List.length attempts
    rw [List.length_map, List.length_map] at length
    omega
  · rename_i absent
    have new := replaceMemo_absent absent
    split
    · rename_i full
      refine ⟨?_, ?_⟩
      · rw [List.map_append, List.map_singleton, ← List.concat_eq_append, List.nodup_concat]
        rw [List.map_tail]
        exact ⟨fun held => new (List.mem_of_mem_tail held), distinct.unique.tail⟩
      · rw [List.length_append, List.length_tail, List.length_singleton]
        omega
    · rename_i room
      refine ⟨?_, ?_⟩
      · rw [List.map_append, List.map_singleton, ← List.concat_eq_append, List.nodup_concat]
        exact ⟨new, distinct.unique⟩
      · rw [List.length_append, List.length_singleton]
        omega

/-- What the audit asks of one queue record. -/
structure Sound (config : FabricConfig) (queue : QueueRecord) : Prop where
  ladder : queue.definition.thresholds.consistent = true
  memo : Distinct config.limits.maxAttemptMemo queue.memo
  retired : queue.lifecycle = .retired → queue.occupancy.reading = {} ∧ queue.drain = {}
  acknowledged : queue.applied.known = true →
    queue.applied.queueGeneration.value ≤ queue.definition.generation.value
  fresh : queue.occupancy.freshness = .fresh →
    queue.occupancy.queueGeneration = queue.definition.generation

theorem Remembers.distinct {config : FabricConfig} {before after : QueueRecord}
    (remembers : Remembers config before after)
    (distinct : Distinct config.limits.maxAttemptMemo before.memo) :
    Distinct config.limits.maxAttemptMemo after.memo := by
  rcases remembers with same | ⟨entry, written⟩
  · exact same ▸ distinct
  · exact written ▸ distinct.remember entry

/-- A refresh calls an observation fresh only when it is bound to the current generation. -/
theorem bound_of_refreshed {config : FabricConfig}
    (strict : config.occupancy.requireGenerationMatch = true) {queue : QueueRecord} {now : Nanos}
    (fresh : Fabric.refreshedFreshness config queue now = .fresh) :
    queue.occupancy.queueGeneration = queue.definition.generation := by
  have policy : (occupancyPolicyFor config queue).requireGenerationMatch = true := by
    simp only [occupancyPolicyFor]
    split <;> exact strict
  rw [Fabric.refreshedFreshness, classifyFreshness] at fresh
  split at fresh
  · cases fresh
  split at fresh
  · rename_i sticky
    rw [fresh] at sticky
    cases sticky
  split at fresh
  · cases fresh
  · rename_i matched
    simpa [policy] using matched

theorem fresh_of_tended {config : FabricConfig}
    (strict : config.occupancy.requireGenerationMatch = true) {queue : QueueRecord}
    {occupancy : OccupancyState} (tended : Tended config queue occupancy)
    (sound : queue.occupancy.freshness = .fresh →
      queue.occupancy.queueGeneration = queue.definition.generation)
    (fresh : occupancy.freshness = .fresh) :
    occupancy.queueGeneration = queue.definition.generation := by
  cases tended with
  | kept => exact sound fresh
  | withdrawn reason sticky =>
      rw [invalidateOccupancy] at fresh
      split at fresh
      · cases fresh
      · rw [show reason = .fresh from fresh] at sticky
        cases sticky
  | refreshed now => exact bound_of_refreshed strict fresh

theorem Sound.still {config : FabricConfig} {before after : QueueRecord}
    (sound : Sound config before) (still : Still before after)
    (remembers : Remembers config before after)
    (fresh : after.occupancy.freshness = .fresh →
      after.occupancy.queueGeneration = before.definition.generation) :
    Sound config after := by
  refine ⟨?_, remembers.distinct sound.memo, ?_, ?_, ?_⟩
  · rw [still.definition]
    exact sound.ladder
  · rw [still.lifecycle, still.reading, still.drain]
    exact sound.retired
  · rw [still.applied, still.definition]
    exact sound.acknowledged
  · rw [still.definition]
    exact fresh

end QueueRecord

namespace Fabric

variable {J : Type}

/-- An accepted kind keeps a record sound; a retired queue accepts only its own retirement. -/
theorem KindCase.sound {fabric : Fabric J} {target : QueueRecord} {request : MutationRequest}
    {now : Nanos} {applied : KindApplied} (ended : KindCase fabric target request now applied)
    {config : FabricConfig} (sound : Sound config target)
    (retires : target.lifecycle = .retired → request.kind = .retireQueue) :
    Sound config applied.target := by
  -- any kind but the retirement finds the queue in service
  have serving : request.kind ≠ .retireQueue → target.lifecycle ≠ .retired :=
    fun other ended => other (retires ended)
  cases ended with
  | unchanged rule repeats => exact sound
  | moved goal rule events kind moves allowed =>
      refine ⟨sound.ladder, sound.memo, fun ended => ?_, sound.acknowledged, sound.fresh⟩
      rcases kind with ⟨_, rfl⟩ | ⟨_, rfl⟩ <;> cases ended
  | redefined cls thresholds owner generation rule events minted kind changed bound ladder =>
      have running : target.lifecycle ≠ .retired :=
        serving (by rcases kind with kind | kind | kind <;> simp [kind])
      refine ⟨?_, sound.memo, fun ended => absurd ended running, ?_, ?_⟩
      · rcases ladder with rfl | consistent
        · exact sound.ladder
        · exact consistent
      · intro known
        cases known
      · intro fresh
        simp only [redefine, invalidateOccupancy] at fresh
        split at fresh <;> cases fresh
  | ingested sample overflows rule events stats kind payload generation epoch =>
      exact ⟨sound.ladder, sound.memo, fun ended => absurd ended (serving (by simp [kind])),
        sound.acknowledged, fun _ => generation⟩
  | drainRequested rule events kind moves allowed =>
      refine ⟨sound.ladder, sound.memo, fun ended => ?_, sound.acknowledged, sound.fresh⟩
      cases ended
  | drainCancelled rule events kind draining =>
      refine ⟨sound.ladder, sound.memo, fun ended => ?_, sound.acknowledged, sound.fresh⟩
      cases ended
  | evidenceRecorded evidence rule events kind payload progress some few backed =>
      exact ⟨sound.ladder, sound.memo, fun ended => absurd ended (serving (by simp [kind])),
        sound.acknowledged, sound.fresh⟩
  | quiesced rule events kind draining complete acknowledged =>
      refine ⟨sound.ladder, sound.memo, fun ended => ?_, sound.acknowledged, sound.fresh⟩
      cases ended
  | fenced fence rule events kind raised =>
      exact ⟨sound.ladder, sound.memo, sound.retired, sound.acknowledged, sound.fresh⟩
  | unfenced rule events kind =>
      exact ⟨sound.ladder, sound.memo, sound.retired, sound.acknowledged, sound.fresh⟩
  | failed reason rule events kind moves allowed =>
      refine ⟨sound.ladder, sound.memo, fun ended => ?_, sound.acknowledged, sound.fresh⟩
      cases ended
  | retired rule events kind moves allowed =>
      refine ⟨sound.ladder, sound.memo, fun _ => ⟨rfl, rfl⟩, sound.acknowledged, fun fresh => ?_⟩
      cases fresh
  | acknowledged acknowledged rule events kind generation =>
      refine ⟨sound.ladder, sound.memo, sound.retired, fun _ => ?_, sound.fresh⟩
      exact generation ▸ UInt64.le_refl _

theorem Mutated.sound {fabric : Fabric J} {request : MutationRequest} {now : Nanos}
    {before after : QueueRecord} (mutated : Mutated fabric request now before after)
    (sound : Sound fabric.config before) : Sound fabric.config after := by
  have retires : before.lifecycle = .retired → request.kind = .retireQueue :=
    fun ended => mutated.retires (.inl ended)
  cases mutated with
  | intro middle after tracker applied durable touch config admitted =>
      have kept := (applyKindLocked_cases admitted.kind).sound sound retires
      have unmoved := unmoved_publishQueue after before request applied durable
      have memo : ∃ entry, (publishQueue after before request applied durable).memo =
          rememberIn applied.target.memo entry fabric.config.limits.maxAttemptMemo := by
        rw [publishQueue, config]
        split <;> exact ⟨_, rfl⟩
      obtain ⟨entry, written⟩ := memo
      refine ⟨?_, ?_, ?_, ?_, ?_⟩
      · rw [unmoved.definition]
        exact kept.ladder
      · rw [written]
        exact kept.memo.remember entry
      · rw [unmoved.lifecycle, unmoved.occupancy, unmoved.drain]
        exact kept.retired
      · rw [unmoved.applied, unmoved.definition]
        exact kept.acknowledged
      · rw [unmoved.occupancy, unmoved.definition]
        exact kept.fresh

theorem Declared.sound {fabric : Fabric J} {request : MutationRequest} {now : Nanos} {id : QueueId}
    {after : QueueRecord} (declared : Declared fabric request now id after) :
    Sound fabric.config after := by
  cases declared with
  | intro after payload resource durable config numbered next kind carried declarable =>
      refine ⟨(admissible_of_checked declarable.checked).ladder, ?_, fun ended => ?_,
        fun known => ?_, fun fresh => ?_⟩
      · have empty : Distinct fabric.config.limits.maxAttemptMemo [] :=
          ⟨List.nodup_nil, Nat.zero_le _⟩
        simp only [declaredRecord, remember, config]
        exact empty.remember _
      · cases ended
      · cases known
      · cases fresh

theorem QueueStep.sound {fabric : Fabric J} {call : Call} {result : Except Status Answer}
    {id : QueueId} {before : Option QueueRecord} {after : QueueRecord}
    (step : QueueStep fabric call result id before (some after))
    (strict : fabric.config.occupancy.requireGenerationMatch = true)
    (sound : ∀ queue, before = some queue → Sound fabric.config queue) :
    Sound fabric.config after := by
  cases step with
  | tended still tended quiet remembers =>
      have kept := sound _ rfl
      exact kept.still still remembers (fresh_of_tended strict tended kept.fresh)
  | unbound unbinds =>
      refine (sound _ rfl).still (still_supersedeBinding _) (.inl rfl) fun fresh => ?_
      simp only [supersedeBinding, invalidateOccupancy] at fresh
      split at fresh <;> cases fresh
  | mutated start request now presented named executed touch mutated read =>
      exact touch.config ▸ mutated.sound (touch.config ▸ sound _ rfl)
  | declared start request now presented executed touch declared =>
      exact touch.config ▸ declared.sound

end Fabric

/-! Bindings. -/

/-- The resource, class and pool a definition names are declared. -/
def Lodged (resources : Table ResourceId ResourceRecord) (definition : QueueDefinition) : Prop :=
  ∃ record, resources.get? definition.resource = some record ∧
    definition.cls.id.value ∈ Series.cls.ids record ∧
    definition.pool.id.value ∈ Series.pool.ids record

theorem TopologyStep.grows {before after : Tables} (step : TopologyStep before after)
    {id : ResourceId} {record : ResourceRecord} (found : before.resources.get? id = some record) :
    ∃ updated, after.resources.get? id = some updated ∧
      ∀ (series : Series), ∀ number ∈ series.ids record, number ∈ series.ids updated := by
  cases step with
  | kept resources epoch number spent => exact ⟨record, resources ▸ found, fun _ _ held => held⟩
  | edited key old updated stored resources epoch number kept authority issued =>
      rw [resources, Table.get?_insert]
      split
      · rename_i here
        rw [here, found] at stored
        cases stored
        exact ⟨updated, rfl, fun series _ held => (issued series).keeps held⟩
      · exact ⟨record, found, fun _ _ held => held⟩
  | declared added room resources epoch number count authority unissued kept =>
      rw [resources, Table.get?_emplace, found]
      exact ⟨record, rfl, fun _ _ held => held⟩
  | advanced epoch resources entered identities =>
      rw [resources, Table.get?_mapValues, found]
      refine ⟨withEpoch epoch record, rfl, fun series number held => ?_⟩
      cases series <;> exact held

theorem TableStep.lodged {before after : Tables} (step : TableStep before after)
    {definition : QueueDefinition} (lodged : Lodged before.resources definition) :
    Lodged after.resources definition := by
  obtain ⟨record, found, cls, pool⟩ := lodged
  cases step with
  | moved queues rest =>
      rw [rest]
      exact ⟨record, found, cls, pool⟩
  | declared payload resource added stored free admissible origin rest =>
      rw [rest, Lodged]
      simp only [Table.get?_insert]
      split
      · rename_i here
        rw [here, found] at stored
        cases stored
        exact ⟨_, rfl, cls, pool⟩
      · exact ⟨record, found, cls, pool⟩
  | tended queues names next config topology =>
      obtain ⟨updated, stored, kept⟩ := topology.grows found
      exact ⟨updated, stored, kept .cls _ cls, kept .pool _ pool⟩

namespace Fabric

variable {J : Type}

theorem checkClassBinding_declared {fabric : Fabric J} {target : QueueRecord}
    {binding : ClassBinding} (passed : checkClassBinding fabric target binding = .ok ()) :
    ∃ record, fabric.resources.get? target.definition.resource = some record ∧
      binding.id.value ∈ Series.cls.ids record := by
  rw [checkClassBinding] at passed
  split at passed
  · cases passed
  rename_i record found
  split at passed
  · cases passed
  rename_i cls declared
  refine ⟨record, found, ?_⟩
  rw [← record.findClass_isSome, declared]
  rfl

theorem KindCase.lodged {fabric : Fabric J} {target : QueueRecord} {request : MutationRequest}
    {now : Nanos} {applied : KindApplied} (ended : KindCase fabric target request now applied)
    (lodged : Lodged fabric.resources target.definition) :
    Lodged fabric.resources applied.target.definition := by
  obtain ⟨record, found, cls, pool⟩ := lodged
  cases ended with
  | redefined binding thresholds owner generation rule events minted kind changed bound ladder =>
      refine ⟨record, found, ?_, pool⟩
      rcases bound with rfl | passed
      · exact cls
      · obtain ⟨other, stored, declared⟩ := checkClassBinding_declared passed
        rw [found] at stored
        cases stored
        exact declared
  | _ => exact ⟨record, found, cls, pool⟩

/-- One call leaves a queue with a definition whose parts were declared before it. -/
theorem QueueStep.lodged {fabric : Fabric J} {call : Call} {result : Except Status Answer}
    {id : QueueId} {before : Option QueueRecord} {after : QueueRecord}
    (step : QueueStep fabric call result id before (some after))
    (lodged : ∀ queue, before = some queue → Lodged fabric.resources queue.definition) :
    Lodged fabric.resources after.definition := by
  cases step with
  | tended still tended quiet remembers =>
      rw [still.definition]
      exact lodged _ rfl
  | @unbound queue unbinds =>
      have kept := lodged queue rfl
      exact kept
  | mutated start request now presented named executed touch mutated read =>
      obtain ⟨middle, applied, other, ended, unmoved⟩ := mutated.kindCase
      have resources : middle.resources = fabric.resources := other.resources.trans touch.resources
      rw [unmoved.definition, ← resources]
      exact ended.lodged (resources ▸ lodged _ rfl)
  | declared start request now presented executed touch declared =>
      cases declared with
      | intro after payload resource durable config numbered next kind carried declarable =>
          have admissible := admissible_of_checked declarable.checked
          rw [← touch.resources]
          exact ⟨resource, declarable.found, admissible.cls, admissible.pool⟩

end Fabric

/-! Whole lives. -/

/-- The tables, the bindings and the records, as every call keeps them. -/
structure Consistent {J : Type} (fabric : Fabric J) : Prop where
  indexed : Indexed fabric.tables
  housed : Housed fabric.tables
  lodged : ∀ id queue, fabric.findQueue id = some queue →
    Lodged fabric.resources queue.definition
  sound : ∀ id queue, fabric.findQueue id = some queue → Sound fabric.config queue

theorem Consistent.serve {fabric : Fabric StableStore} (consistent : Consistent fabric)
    (strict : fabric.config.occupancy.requireGenerationMatch = true) {call : Call}
    (living : call ≠ .recover) : Consistent (fabric.serve call).fabric := by
  have step := serve_tableStep fabric living
  have config : (fabric.serve call).fabric.config = fabric.config := serve_config fabric call
  refine ⟨consistent.indexed.step step, consistent.housed.step consistent.indexed step, ?_, ?_⟩
  · intro id queue found
    have moved := serve_queueStep fabric living id
    rw [found] at moved
    exact step.lodged (moved.lodged fun old stored => consistent.lodged id old stored)
  · intro id queue found
    have moved := serve_queueStep fabric living id
    rw [found] at moved
    rw [config]
    exact moved.sound strict fun old stored => consistent.sound id old stored

/-- The tables of a fabric that holds nothing yet. -/
def Tables.blank (config : FabricConfig) (epoch : Epoch) : Tables :=
  ⟨config, epoch, .empty, .empty, .empty, 1, ⟨1, 1, 1, 1⟩⟩

namespace System

theorem scan_of_empty {config : FabricConfig} {journaled : Bool} {clock : Clock} {seed : UInt64}
    {script : List Bool} {store : StableStore}
    (present : (withScript (Fabric.create config clock (if journaled then some {} else none) seed)
      script).journal = some store) :
    ∃ recovery epoch, (withScript (Fabric.create config clock
      (if journaled then some {} else none) seed) script).beginRecovery.scanJournal
        store.openStore.2 =
        { recovery, resources := .empty, queues := .empty, previousEpoch := epoch } := by
  cases journaled with
  | false => cases present
  | true =>
      cases present
      have records : IJournal.records (StableStore.openStore { script }).2 = [] := by
        simp only [StableStore.openStore]
        split <;> rfl
      rw [scanJournal, records]
      exact ⟨_, _, rfl⟩

/-- A first recovery on an empty store, or without one, leaves every table empty. -/
theorem boot_tables (config : FabricConfig) (journaled : Bool) (clock : Clock) (seed : UInt64)
    (script : List Bool) :
    ∃ epoch, (boot config (if journaled then some {} else none) clock seed script).fabric.tables =
      .blank config epoch := by
  have ended := Fabric.recover_cases (withScript (Fabric.create config clock
    (if journaled then some {} else none) seed) script)
  rw [boot, serve]
  simp only [Reply.answered]
  generalize (withScript (Fabric.create config clock (if journaled then some {} else none) seed)
    script).recover = reply at ended
  cases ended with
  | unjournaled absent result touch journal => exact ⟨⟨1⟩, touch.tables⟩
  | unopened store present failed result touch journal => exact ⟨⟨1⟩, touch.tables⟩
  | exhausted store scan status present opened scanned minted result touch journal =>
      obtain ⟨recovery, previous, empty⟩ := scan_of_empty present
      rw [empty] at scanned
      subst scanned
      exact ⟨⟨1⟩, touch.tables⟩
  | replayed store last scan epoch replayed payload present opened scanned minted installed kept
      touch written =>
      obtain ⟨recovery, previous, empty⟩ := scan_of_empty present
      rw [empty] at scanned
      subst scanned installed
      exact ⟨epoch, touch.tables⟩

theorem consistent_of_blank {fabric : Fabric StableStore} {config : FabricConfig} {epoch : Epoch}
    (blank : fabric.tables = .blank config epoch) : Consistent fabric := by
  have queues : fabric.queues = .empty := congrArg Tables.queues blank
  have absent : ∀ id queue, fabric.findQueue id ≠ some queue := by
    intro id queue found
    rw [findQueue, queues] at found
    cases found
  refine ⟨?_, ?_, fun id queue found => absurd found (absent id queue),
    fun id queue found => absurd found (absent id queue)⟩
  · rw [blank]
    refine ⟨?_, ?_, rfl, Nat.zero_le _, ?_⟩
    · simp [Tables.blank]
    · simp [Tables.blank]
    · simp [Tables.blank]
  · rw [blank]
    refine ⟨?_, rfl, Nat.zero_le _, ?_, ?_, ?_⟩
    · simp [Tables.blank]
    · simp [Tables.blank]
    · simp [Tables.blank]
    · simp [Tables.blank]

theorem ahead_of_blank (config : FabricConfig) (epoch : Epoch) :
    Ahead 0 (.blank config epoch) := by
  refine ⟨Nat.le_refl 0, Nat.le_refl 0, fun series => ?_, by simp [Tables.blank]⟩
  have one : (1 : UInt64).toNat ≤ 1 := by decide
  cases series <;> exact one

/-- A public operation other than a recovery. -/
def Living (_ : System) : Step → Prop
  | .call call _ => call ≠ .recover
  | .restart .. => False

/-- The state is consistent, and its counters are ahead of the calls made so far. -/
structure Tracked (done : List Step) (system : System) : Prop where
  consistent : Consistent system.fabric
  ahead : done.length < 2 ^ 64 - 1 → Ahead done.length system.fabric.tables
  strict : system.fabric.config.occupancy.requireGenerationMatch = true

theorem Tracked.step {done : List Step} {system : System} (tracked : Tracked done system)
    {input : Step} (living : Living system input) :
    Tracked (done ++ [input]) (system.step input) := by
  cases input with
  | restart => exact absurd living id
  | call call script =>
      have kept := tracked.consistent
      have scripted : Consistent (withScript system.fabric script) :=
        ⟨kept.indexed, kept.housed, kept.lodged, kept.sound⟩
      refine ⟨scripted.serve tracked.strict living, fun small => ?_, ?_⟩
      · rw [List.length_append, List.length_singleton] at small ⊢
        exact (tracked.ahead (by omega)).step (by omega)
          (serve_tableStep (withScript system.fabric script) living)
      · rw [config_step]
        exact tracked.strict

end System

/-! The audit. -/

/-- What the audit asks of every state. -/
structure Audited {J : Type} (fabric : Fabric J) : Prop where
  keyed : ∀ id queue, fabric.findQueue id = some queue → queue.definition.id = id
  named : ∀ resource name id, fabric.queueNames.get? (nameKey resource name) = some id ↔
    ∃ queue, fabric.findQueue id = some queue ∧ queue.definition.resource = resource ∧
      queue.definition.name = name
  listed : ∀ key id, fabric.queueNames.get? key = some id →
    ∃ resource name, key = nameKey resource name
  injective : ∀ first second id, fabric.queueNames.get? first = some id →
    fabric.queueNames.get? second = some id → first = second
  bound : ∀ id queue, fabric.findQueue id = some queue → ∃ record,
    fabric.findResource queue.definition.resource = some record ∧
      (record.findClass queue.definition.cls.id).isSome = true ∧
      (record.findPool queue.definition.pool.id).isSome = true
  counted : ∀ id record, fabric.findResource id = some record →
    record.queueCount.toNat = resourceQueues fabric.queues id
  ladder : ∀ id queue, fabric.findQueue id = some queue →
    queue.definition.thresholds.consistent = true
  memo : ∀ id queue, fabric.findQueue id = some queue →
    (queue.memo.map (·.attempt)).Nodup ∧
      queue.memo.length ≤ fabric.config.limits.maxAttemptMemo.toNat
  retired : ∀ id queue, fabric.findQueue id = some queue → queue.lifecycle = .retired →
    queue.occupancy.present = false ∧ queue.drain.phase = .idle
  acknowledged : ∀ id queue, fabric.findQueue id = some queue → queue.applied.known = true →
    queue.applied.queueGeneration.value ≤ queue.definition.generation.value
  fresh : ∀ id queue, fabric.findQueue id = some queue → queue.occupancy.freshness = .fresh →
    queue.occupancy.queueGeneration = queue.definition.generation
  epochs : ∀ id record, fabric.findResource id = some record →
    record.authority.epoch = fabric.epoch

/-- Every counter exceeds every identity in use. -/
structure CountersAhead {J : Type} (fabric : Fabric J) : Prop where
  queues : ∀ id queue, fabric.findQueue id = some queue → id.value < fabric.nextQueueId
  resources : ∀ id record, fabric.findResource id = some record → id.value < fabric.nextResourceId
  classes : ∀ id record, fabric.findResource id = some record →
    ∀ cls ∈ record.classes, cls.id.value < fabric.nextClassId
  pools : ∀ id record, fabric.findResource id = some record →
    ∀ pool ∈ record.pools, pool.id.value < fabric.nextPoolId
  backends : ∀ id record, fabric.findResource id = some record →
    ∀ backend ∈ record.backends, backend.backend.value < fabric.nextBackendId

theorem Consistent.audited {J : Type} {fabric : Fabric J} (consistent : Consistent fabric) :
    Audited fabric := by
  obtain ⟨indexed, housed, lodged, sound⟩ := consistent
  have named : ∀ key id, fabric.queueNames.get? key = some id ↔ ∃ queue,
      fabric.findQueue id = some queue ∧
        key = nameKey queue.definition.resource queue.definition.name := indexed.named
  refine ⟨indexed.keyed, ?_, ?_, ?_, ?_, housed.counted, fun id queue found =>
    (sound id queue found).ladder, fun id queue found =>
    ⟨(sound id queue found).memo.unique, (sound id queue found).memo.few⟩, ?_,
    fun id queue found => (sound id queue found).acknowledged,
    fun id queue found => (sound id queue found).fresh, housed.epochs⟩
  · intro resource name id
    rw [named]
    constructor
    · rintro ⟨queue, found, key⟩
      obtain ⟨home, called⟩ := nameKey_injective key
      exact ⟨queue, found, home.symm, called.symm⟩
    · rintro ⟨queue, found, rfl, rfl⟩
      exact ⟨queue, found, rfl⟩
  · intro key id found
    obtain ⟨queue, _, same⟩ := (named key id).mp found
    exact ⟨_, _, same⟩
  · intro first second id one two
    obtain ⟨queue, found, rfl⟩ := (named first id).mp one
    obtain ⟨other, again, rfl⟩ := (named second id).mp two
    rw [found] at again
    cases again
    rfl
  · intro id queue found
    obtain ⟨record, home, cls, pool⟩ := lodged id queue found
    exact ⟨record, home, (record.findClass_isSome _).mpr cls, (record.findPool_isSome _).mpr pool⟩
  · intro id queue found ended
    obtain ⟨reading, drain⟩ := (sound id queue found).retired ended
    have same : queue.occupancy.reading = OccupancyState.reading {} := reading
    exact ⟨(OccupancyState.values_of_reading same).1, by rw [drain]⟩

theorem Ahead.counters {J : Type} {fabric : Fabric J} {calls : Nat}
    (ahead : Ahead calls fabric.tables) (consistent : Consistent fabric)
    (small : calls < 2 ^ 64 - 1) : CountersAhead fabric := by
  have queueRoom : fabric.queues.size ≤ calls := ahead.queues
  have resourceRoom : fabric.resources.size ≤ calls := ahead.resources
  have below : ∀ (series : Series) id record, fabric.findResource id = some record →
    ∀ number ∈ series.ids record, number < series.next fabric.identities := ahead.below
  refine ⟨?_, ?_, ?_, ?_, ?_⟩
  · intro id queue found
    have bound : id.value.toNat ≤ fabric.queues.size := consistent.indexed.numbered id queue found
    have next : fabric.nextQueueId = UInt64.ofNat (fabric.queues.size + 1) :=
      consistent.indexed.next
    rw [next, UInt64.lt_iff_toNat_lt, UInt64.toNat_ofNat', Nat.mod_eq_of_lt (by omega)]
    omega
  · intro id record found
    have bound : id.value.toNat ≤ fabric.resources.size :=
      consistent.housed.numbered id record found
    have next : fabric.nextResourceId = UInt64.ofNat (fabric.resources.size + 1) :=
      consistent.housed.next
    rw [next, UInt64.lt_iff_toNat_lt, UInt64.toNat_ofNat', Nat.mod_eq_of_lt (by omega)]
    omega
  · intro id record found cls listed
    exact below .cls id record found _ (List.mem_map_of_mem listed)
  · intro id record found pool listed
    exact below .pool id record found _ (List.mem_map_of_mem listed)
  · intro id record found backend listed
    exact below .backend id record found _ (List.mem_map_of_mem listed)

namespace System

/-- After a first recovery on an empty store every sequence of public operations other than a
recovery leaves a state that passes the audit; its counters exceed every identity in use as long
as fewer than `2 ^ 64 - 1` operations were made. -/
theorem life_audited (config : FabricConfig) (journaled : Bool) (clock : Clock) (seed : UInt64)
    (script : List Bool) (steps : List Step)
    (strict : config.occupancy.requireGenerationMatch = true)
    (living : Runs.Along step Living
      (boot config (if journaled then some {} else none) clock seed script) steps) :
    let system := (boot config (if journaled then some {} else none) clock seed script).run steps
    Audited system.fabric ∧ (steps.length < 2 ^ 64 - 1 → CountersAhead system.fabric) := by
  intro system
  obtain ⟨epoch, blank⟩ := boot_tables config journaled clock seed script
  have tracked : Tracked steps system := by
    refine Runs.history_invariant (fun done input held allowed => held.step allowed) ?_ living
    refine ⟨consistent_of_blank blank, fun _ => blank ▸ ahead_of_blank config epoch, ?_⟩
    rw [config_boot]
    exact strict
  exact ⟨tracked.consistent.audited, fun small =>
    (tracked.ahead small).counters tracked.consistent small⟩

/-- The sample life, up to its declared queue. -/
theorem life_audited_sample :
    (sampleSystem.fabric.findQueue ⟨1⟩).isSome = true ∧ Audited sampleSystem.fabric ∧
      CountersAhead sampleSystem.fabric := by
  have living : Runs.Along step Living sampleStart sampleSteps :=
    ⟨Call.noConfusion, Call.noConfusion, Call.noConfusion, Call.noConfusion, trivial⟩
  have held := life_audited {} true ⟨fun _ => 1000, 0⟩ 7 [] sampleSteps rfl living
  exact ⟨by decide +kernel, held.1, held.2 (by decide)⟩

/-! A class declaration whose write fails still uses up its identity. -/

/-- The declaration of a class, cut off at the journal. -/
def lostClass : Step :=
  .call (.declareClass ⟨1⟩ (text "d") 0 {} ⟨5⟩ ⟨1⟩ (sampleProvenance 1)) [false]

/-- A fabric in which the declaration gets as far as the journal. -/
structure ReachesJournal (fabric : Fabric StableStore) (store : StableStore)
    (record : ResourceRecord) : Prop where
  running : fabric.shuttingDown = false
  journal : fabric.journal = some store
  opened : store.opened = true
  settled : store.script = []
  found : fabric.findResource ⟨1⟩ = some record
  allowed : authorize record.authority ⟨5⟩ .declareTopology ⟨1⟩ record.applicability .active = none
  new : redeclareClass (text "d") 0 {} record.classes = none
  room : ¬ record.classes.length ≥ fabric.config.limits.maxClassesPerResource.toNat
  minted : ∃ generation, record.generation.next = .ok generation

theorem append_refused {store : StableStore} (opened : store.opened = true)
    (settled : store.script = []) (type : JournalRecordType) (payload : Bytes) :
    StableStore.append { store with script := [false] } type payload =
      (⟨.internal, "cannot append journal record payload"⟩, store) := by
  cases store with
  | mk synced pending isOpen script =>
      simp only [] at opened settled
      subst opened settled
      rfl

theorem ReachesJournal.lost {system : System} {store : StableStore} {record : ResourceRecord}
    (reaches : ReachesJournal system.fabric store record) :
    (system.step lostClass).fabric =
      { system.fabric with nextClassId := system.fabric.nextClassId + 1 } := by
  obtain ⟨running, journal, opened, settled, found, allowed, new, room, generation, minted⟩ :=
    reaches
  have valid : (sampleProvenance 1).valid = true := by decide
  have named : ((text "d").isEmpty || decide ((text "d").length > Limits.maxNameChars)) = false := by
    decide +kernel
  obtain ⟨fabric, result⟩ := system
  simp only [findResource] at running journal found room
  simp only [step, lostClass, serve, Reply.answered, declareClass, withScript, findResource,
    running, valid, named, found, allowed, declareClassIn, new, room, minted, Bool.not_true,
    Bool.false_eq_true, ↓reduceIte, publishClass, publishResource, persist, persistIn, journal,
    Option.map_some, IJournal.append, append_refused opened settled, orRefuse, Status.isOk, refuse]
  cases fabric
  cases journal
  rfl

theorem ReachesJournal.lostAll {system : System} {store : StableStore} {record : ResourceRecord}
    (reaches : ReachesJournal system.fabric store record) (count : Nat) :
    (system.run (List.replicate count lostClass)).fabric =
      { system.fabric with
        nextClassId := system.fabric.nextClassId + UInt64.ofNat count } := by
  induction count with
  | zero =>
      have still : system.fabric.nextClassId + UInt64.ofNat 0 = system.fabric.nextClassId :=
        UInt64.add_zero _
      rw [still]
      rfl
  | succ count ih =>
      rw [List.replicate_succ', run_concat]
      generalize system.run (List.replicate count lostClass) = reached at ih
      have again : ReachesJournal reached.fabric store record := by
        rw [ih]
        exact ⟨reaches.running, reaches.journal, reaches.opened, reaches.settled, reaches.found,
          reaches.allowed, reaches.new, reaches.room, reaches.minted⟩
      rw [again.lost, ih]
      simp only [UInt64.ofNat_add, UInt64.add_assoc]
      rfl

/-- One resource with one class. -/
def classedSystem : System := sampleStart.run (sampleSteps.take 2)

theorem classedSystem_reaches : ReachesJournal classedSystem.fabric classedSystem.store
    ((classedSystem.fabric.findResource ⟨1⟩).getD {}) where
  running := by decide +kernel
  journal := by
    have present : classedSystem.fabric.journal.isSome = true := by decide +kernel
    obtain ⟨store, found⟩ := Option.isSome_iff_exists.mp present
    rw [System.store, found]
    rfl
  opened := by decide +kernel
  settled := by decide +kernel
  found := by
    have present : (classedSystem.fabric.findResource ⟨1⟩).isSome = true := by decide +kernel
    obtain ⟨record, found⟩ := Option.isSome_iff_exists.mp present
    rw [found]
    rfl
  allowed := Option.isNone_iff_eq_none.mp (by decide +kernel)
  new := Option.isNone_iff_eq_none.mp (by decide +kernel)
  room := by decide +kernel
  minted := by
    have second : ((classedSystem.fabric.findResource ⟨1⟩).getD {}).generation = ⟨2⟩ := by
      decide +kernel
    exact ⟨⟨3⟩, by rw [second]; rfl⟩

/-- As many lost declarations as bring the class counter from two back to zero. -/
def lostCount : Nat := 2 ^ 64 - 2

theorem not_ahead_of_zero {fabric : Fabric StableStore} {id : ResourceId} {record : ResourceRecord}
    (found : fabric.findResource id = some record) (used : record.classes.isEmpty = false) :
    ¬ CountersAhead { fabric with nextClassId := 0 } := by
  intro ahead
  obtain ⟨cls, listed⟩ := List.exists_mem_of_ne_nil record.classes fun empty => by
    simp [empty] at used
  exact absurd (ahead.classes id record found cls listed) (UInt64.not_lt_zero)

/-- After a good recovery on an empty store, lost declarations alone bring the class counter back
below a class in use. -/
theorem class_counter_wraps :
    (∃ answer, sampleStart.result = .ok answer) ∧
      sampleStart.fabric.config.occupancy.requireGenerationMatch = true ∧
      ∃ steps, Runs.Along step Living sampleStart steps ∧
        ¬ CountersAhead (sampleStart.run steps).fabric := by
  refine ⟨⟨.done, rfl⟩, by decide +kernel, ?_⟩
  refine ⟨sampleSteps.take 2 ++ List.replicate lostCount lostClass, ?_, fun ahead => ?_⟩
  · refine Runs.along_of_forall (fun input listed state => ?_) sampleStart
    rcases List.mem_append.mp listed with early | late
    · have each : ∀ input ∈ sampleSteps.take 2, Living state input := by
        simp [sampleSteps, Living]
      exact each input early
    · rw [List.eq_of_mem_replicate late]
      exact Call.noConfusion
  · have counter := classedSystem_reaches.lostAll lostCount
    rw [run, List.foldl_append] at ahead
    change CountersAhead (classedSystem.run (List.replicate lostCount lostClass)).fabric at ahead
    have next : classedSystem.fabric.nextClassId = 2 := by decide +kernel
    have wrapped : (2 : UInt64) + UInt64.ofNat lostCount = 0 := by decide +kernel
    rw [counter, next, wrapped] at ahead
    exact not_ahead_of_zero classedSystem_reaches.found (by decide +kernel) ahead

end System

end QueueFabric
