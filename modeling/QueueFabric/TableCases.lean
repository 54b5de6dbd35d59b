import QueueFabric.QueueCases

/-!
How calls move the tables of the fabric: the queues with their name index, the
resources with what is declared in them, and the identities still to be issued.
-/

namespace QueueFabric

open QueueRecord

/-! Name keys. -/

theorem hexDigit_injective : ∀ first second : Fin 16,
    hexDigit (UInt64.ofNat first) = hexDigit (UInt64.ofNat second) → first = second := by
  decide +kernel

theorem mod_pow_of_nibbles {first second : Nat} (count : Nat)
    (same : ∀ index < count, first / 16 ^ index % 16 = second / 16 ^ index % 16) :
    first % 16 ^ count = second % 16 ^ count := by
  induction count with
  | zero => simp [Nat.mod_one]
  | succ count ih =>
      rw [Nat.mod_pow_succ, Nat.mod_pow_succ, ih fun index below => same index (by omega),
        same count (by omega)]

theorem nibble_toNat (value : UInt64) (index : Nat) (below : index < 16) :
    ((value >>> UInt64.ofNat (4 * index)) &&& 0xF).toNat = value.toNat / 16 ^ index % 16 := by
  rw [UInt64.toNat_and, UInt64.toNat_shiftRight, UInt64.toNat_ofNat']
  have small : 4 * index % 2 ^ 64 % 64 = 4 * index := by omega
  rw [small, Nat.shiftRight_eq_div_pow, pow_mul]
  exact Nat.and_two_pow_sub_one_eq_mod _ 4

theorem formatHex16_injective {first second : UInt64}
    (same : formatHex16 first = formatHex16 second) : first = second := by
  simp only [formatHex16, List.cons.injEq, true_and, List.map_inj_left, List.mem_range] at same
  have digits : ∀ index < 16, first.toNat / 16 ^ index % 16 = second.toNat / 16 ^ index % 16 := by
    intro index below
    have digit := same (15 - index) (by omega)
    rw [show 15 - (15 - index) = index by omega] at digit
    have value : ∀ number : UInt64, (number >>> UInt64.ofNat (4 * index)) &&& 0xF =
        UInt64.ofNat (number.toNat / 16 ^ index % 16) := by
      intro number
      rw [← nibble_toNat number index below, UInt64.ofNat_toNat]
    rw [value, value] at digit
    have equal := hexDigit_injective ⟨_, Nat.mod_lt _ (by decide)⟩
      ⟨_, Nat.mod_lt _ (by decide)⟩ digit
    exact congrArg Fin.val equal
  have total := mod_pow_of_nibbles 16 digits
  have firstSmall := first.toNat_lt
  have secondSmall := second.toNat_lt
  rw [Nat.mod_eq_of_lt (by omega), Nat.mod_eq_of_lt (by omega)] at total
  exact UInt64.toNat_inj.mp total

/-- A name key is the fixed-width identity of its resource, a slash and the name. -/
theorem nameKey_injective {first second : ResourceId} {name other : Text}
    (same : Fabric.nameKey first name = Fabric.nameKey second other) :
    first = second ∧ name = other := by
  have width : first.toText.length = second.toText.length := by simp [Ident.toText, formatHex16]
  obtain ⟨key, rest⟩ := List.append_inj same width
  exact ⟨Ident.ext (formatHex16_injective key), (List.cons.inj rest).2⟩

/-! Identities issued inside resources. -/

/-- The identities a resource hands out: classes, pools and backends. -/
inductive Series
  | cls
  | pool
  | backend

namespace Series

def ids : Series → ResourceRecord → List UInt64
  | .cls, record => record.classes.map (·.id.value)
  | .pool, record => record.pools.map (·.id.value)
  | .backend, record => record.backends.map (·.backend.value)

def next : Series → Fabric.Identities → UInt64
  | .cls, identities => identities.cls
  | .pool, identities => identities.pool
  | .backend, identities => identities.backend

end Series

/-- A counter that stands or takes one step. -/
def Spends (before after : UInt64) : Prop := after = before ∨ after = before + 1

/-- No identity is added to the list, or the next one is. -/
def Issued (before after : List UInt64) (next spent : UInt64) : Prop :=
  after = before ∧ Spends next spent ∨ after = before ++ [next] ∧ spent = next + 1

theorem Issued.same {ids : List UInt64} {next : UInt64} : Issued ids ids next next :=
  .inl ⟨rfl, .inl rfl⟩

theorem Issued.spends {before after : List UInt64} {next spent : UInt64}
    (issued : Issued before after next spent) : Spends next spent := by
  rcases issued with ⟨_, spends⟩ | ⟨_, taken⟩
  · exact spends
  · exact .inr taken

theorem Issued.keeps {before after : List UInt64} {next spent : UInt64}
    (issued : Issued before after next spent) {id : UInt64} (held : id ∈ before) : id ∈ after := by
  rcases issued with ⟨rfl, _⟩ | ⟨rfl, _⟩
  · exact held
  · exact List.mem_append_left [next] held

theorem ResourceRecord.findClass_isSome (record : ResourceRecord) (cls : ClassId) :
    (record.findClass cls).isSome = true ↔ cls.value ∈ Series.cls.ids record := by
  rw [findClass, List.find?_isSome, Series.ids, List.mem_map]
  refine exists_congr fun entry => and_congr_right fun _ => ?_
  rw [decide_eq_true_eq]
  exact Ident.ext_iff

theorem ResourceRecord.findPool_isSome (record : ResourceRecord) (pool : PoolId) :
    (record.findPool pool).isSome = true ↔ pool.value ∈ Series.pool.ids record := by
  rw [findPool, List.find?_isSome, Series.ids, List.mem_map]
  refine exists_congr fun entry => and_congr_right fun _ => ?_
  rw [decide_eq_true_eq]
  exact Ident.ext_iff

namespace Fabric

variable {J : Type}

/-! Declarations inside a resource. -/

theorem redeclareClass_map {α : Type} {field : SchedulingClassDef → α} {name : Text}
    {priority : UInt32} {qos : QosRef} {classes updated : List SchedulingClassDef} {id : ClassId}
    (unset : ∀ entry generation, field { entry with generation, priority, qos } = field entry)
    (declared : redeclareClass name priority qos classes = some (.ok (id, updated))) :
    updated.map field = classes.map field := by
  induction classes generalizing id updated with
  | nil => cases declared
  | cons entry rest ih =>
      rw [redeclareClass] at declared
      split at declared
      · cases minted : entry.generation.next with
        | error status => simp [minted, Except.map] at declared
        | ok generation =>
            simp only [minted, Except.map, Option.some.injEq, Except.ok.injEq,
              Prod.mk.injEq] at declared
            rw [← declared.2, List.map_cons, List.map_cons, unset]
      · obtain ⟨result, found, same⟩ := Option.map_eq_some_iff.mp declared
        cases result with
        | error status => simp [Except.map] at same
        | ok value =>
            simp only [Except.map, Except.ok.injEq, Prod.mk.injEq] at same
            rw [← same.2, List.map_cons, List.map_cons, ih found]

theorem redeclarePool_map {α : Type} {field : BufferPoolDef → α} {name : Text}
    {capacityBytes : UInt64} {pools updated : List BufferPoolDef} {id : PoolId}
    (unset : ∀ entry generation, field { entry with generation, capacityBytes } = field entry)
    (declared : redeclarePool name capacityBytes pools = some (.ok (id, updated))) :
    updated.map field = pools.map field := by
  induction pools generalizing id updated with
  | nil => cases declared
  | cons entry rest ih =>
      rw [redeclarePool] at declared
      split at declared
      · cases minted : entry.generation.next with
        | error status => simp [minted, Except.map] at declared
        | ok generation =>
            simp only [minted, Except.map, Option.some.injEq, Except.ok.injEq,
              Prod.mk.injEq] at declared
            rw [← declared.2, List.map_cons, List.map_cons, unset]
      · obtain ⟨result, found, same⟩ := Option.map_eq_some_iff.mp declared
        cases result with
        | error status => simp [Except.map] at same
        | ok value =>
            simp only [Except.map, Except.ok.injEq, Prod.mk.injEq] at same
            rw [← same.2, List.map_cons, List.map_cons, ih found]

theorem killBackend_ids (backend : BackendId) (backends : List BackendIncarnation) :
    (killBackend backend backends).map (·.backend.value) = backends.map (·.backend.value) := by
  induction backends with
  | nil => rfl
  | cons entry rest ih =>
      rw [killBackend]
      split
      · rfl
      · rw [List.map_cons, List.map_cons, ih]

theorem declareClassIn_issued {fabric : Fabric J} {record : ResourceRecord} {resource : ResourceId}
    {name : Text} {priority : UInt32} {qos : QosRef} {provenance : Provenance} {cls : ClassId}
    {classes : List SchedulingClassDef} {nextClassId : UInt64}
    (declared : fabric.declareClassIn record resource name priority qos provenance =
      .ok (cls, classes, nextClassId)) :
    Issued (record.classes.map (·.id.value)) (classes.map (·.id.value)) fabric.nextClassId
      nextClassId := by
  rw [declareClassIn] at declared
  split at declared
  · cases declared
  · rename_i again
    cases declared
    exact .inl ⟨redeclareClass_map (fun _ _ => rfl) again, .inl rfl⟩
  · split at declared
    · cases declared
    · cases declared
      exact .inr ⟨List.map_append, rfl⟩

theorem declarePoolIn_issued {fabric : Fabric J} {record : ResourceRecord} {resource : ResourceId}
    {name : Text} {capacityBytes : UInt64} {provenance : Provenance} {pool : PoolId}
    {pools : List BufferPoolDef} {nextPoolId : UInt64}
    (declared : fabric.declarePoolIn record resource name capacityBytes provenance =
      .ok (pool, pools, nextPoolId)) :
    Issued (record.pools.map (·.id.value)) (pools.map (·.id.value)) fabric.nextPoolId
      nextPoolId := by
  rw [declarePoolIn] at declared
  split at declared
  · cases declared
  · rename_i again
    cases declared
    exact .inl ⟨redeclarePool_map (fun _ _ => rfl) again, .inl rfl⟩
  · split at declared
    · cases declared
    · cases declared
      exact .inr ⟨List.map_append, rfl⟩

/-! Applications. -/

/-- What the checks of a declaration establish. -/
structure Admissible (config : FabricConfig) (queues : Table QueueId QueueRecord)
    (payload : DeclareQueuePayload) (resource : ResourceRecord) : Prop where
  few : resourceQueues queues payload.resource < config.limits.maxQueuesPerResource.toNat
  room : queues.size < config.limits.maxQueuesTotal.toNat
  cls : payload.cls.id.value ∈ Series.cls.ids resource
  pool : payload.pool.id.value ∈ Series.pool.ids resource
  ladder : payload.thresholds.consistent = true

theorem admissible_of_checked {fabric : Fabric J} {payload : DeclareQueuePayload}
    {resource : ResourceRecord} (checked : fabric.checkDeclaration payload resource = none) :
    Fabric.Admissible fabric.config fabric.queues payload resource := by
  rw [checkDeclaration] at checked
  split at checked
  · cases checked
  rename_i few
  split at checked
  · cases checked
  rename_i room
  split at checked
  · cases checked
  rename_i cls foundClass
  split at checked
  · cases checked
  split at checked
  · cases checked
  rename_i pool foundPool
  split at checked
  · cases checked
  split at checked
  · cases checked
  rename_i ladder
  refine ⟨Nat.lt_of_not_ge few, Nat.lt_of_not_ge room, ?_, ?_, by simpa using ladder⟩
  · rw [← resource.findClass_isSome, foundClass]
    rfl
  · rw [← resource.findPool_isSome, foundPool]
    rfl

/-- What a declared queue takes from the request that declared it. -/
structure DeclaredFrom (payload : DeclareQueuePayload) (id : QueueId) (record : QueueRecord) :
    Prop where
  id : record.definition.id = id
  resource : record.definition.resource = payload.resource
  name : record.definition.name = payload.name
  cls : record.definition.cls = payload.cls
  pool : record.definition.pool = payload.pool

theorem declaredFrom_declaredRecord (fabric : Fabric J) (request : MutationRequest)
    (payload : DeclareQueuePayload) (now : Nanos) (durable : Bool) :
    DeclaredFrom payload ⟨fabric.nextQueueId⟩
      (fabric.declaredRecord request payload now durable) := ⟨rfl, rfl, rfl, rfl, rfl⟩

end Fabric

/-- The tables of a fabric, its counters and what they are checked against. -/
structure Tables where
  config : FabricConfig
  epoch : Epoch
  resources : Table ResourceId ResourceRecord
  queues : Table QueueId QueueRecord
  queueNames : Table Text QueueId
  nextQueueId : UInt64
  identities : Fabric.Identities

def Fabric.tables {J : Type} (fabric : Fabric J) : Tables :=
  ⟨fabric.config, fabric.epoch, fabric.resources, fabric.queues, fabric.queueNames,
    fabric.nextQueueId, fabric.identities⟩

open Fabric

/-- What a call other than an application does to the resources. -/
inductive TopologyStep (before after : Tables) : Prop
  | kept (resources : after.resources = before.resources) (epoch : after.epoch = before.epoch)
      (number : after.identities.resource = before.identities.resource)
      (spent : ∀ series : Series, Spends (series.next before.identities)
        (series.next after.identities))
  | edited (key : ResourceId) (record updated : ResourceRecord)
      (found : before.resources.get? key = some record)
      (resources : after.resources = before.resources.insert key updated)
      (epoch : after.epoch = before.epoch)
      (number : after.identities.resource = before.identities.resource)
      (count : updated.queueCount = record.queueCount)
      (authority : updated.authority.epoch = record.authority.epoch)
      (issued : ∀ series : Series, Issued (series.ids record) (series.ids updated)
        (series.next before.identities) (series.next after.identities))
  | declared (record : ResourceRecord)
      (room : before.resources.size < before.config.limits.maxResources.toNat)
      (resources : after.resources =
        before.resources.emplace ⟨before.identities.resource⟩ record)
      (epoch : after.epoch = before.epoch)
      (number : after.identities.resource = before.identities.resource + 1)
      (count : record.queueCount = 0) (authority : record.authority.epoch = before.epoch)
      (unissued : ∀ series : Series, series.ids record = [])
      (kept : ∀ series : Series, series.next after.identities = series.next before.identities)
  | advanced (epoch : Epoch)
      (resources : after.resources = before.resources.mapValues fun _ record =>
        withEpoch epoch record)
      (entered : after.epoch = epoch) (identities : after.identities = before.identities)

/-- What a call of a life does to the tables: queues are moved under their identities, one queue
is declared, or the queues are tended while the topology moves. -/
inductive TableStep (before after : Tables) : Prop
  | moved (queues : Table.Related Identical before.queues after.queues)
      (rest : after = { before with queues := after.queues })
  | declared (payload : DeclareQueuePayload) (resource : ResourceRecord) (record : QueueRecord)
      (found : before.resources.get? payload.resource = some resource)
      (free : before.queueNames.get? (nameKey payload.resource payload.name) = none)
      (admissible : Fabric.Admissible before.config before.queues payload resource)
      (origin : DeclaredFrom payload ⟨before.nextQueueId⟩ record)
      (rest : after = { before with
        queues := before.queues.emplace ⟨before.nextQueueId⟩ record
        queueNames := before.queueNames.emplace (nameKey payload.resource payload.name)
          ⟨before.nextQueueId⟩
        nextQueueId := before.nextQueueId + 1
        resources := before.resources.insert payload.resource
          { resource with queueCount := resource.queueCount + 1 } })
  | tended (queues : Table.Related Same before.queues after.queues)
      (names : after.queueNames = before.queueNames)
      (next : after.nextQueueId = before.nextQueueId) (config : after.config = before.config)
      (topology : TopologyStep before after)

namespace Fabric

variable {J : Type}

theorem Touch.tables {before after : Fabric J} (touch : Touch before after) :
    after.tables = before.tables := by
  simp only [Fabric.tables, touch.config, touch.epoch, touch.resources, touch.queues,
    touch.queueNames, touch.nextQueueId, touch.identities]

theorem tableStep_of_eq {before after : Fabric J} (same : after.tables = before.tables) :
    TableStep before.tables after.tables := by
  rw [same]
  exact .moved (Table.related_refl Identical.refl _) rfl

variable [IJournal J]

/-- A mutation of a known queue replaces that queue and no other part of the tables. -/
theorem ExistingCase.moved {fabric : Fabric J} {key : QueueId} {queue : QueueRecord}
    {request : MutationRequest} {now : Nanos} {reply : Reply J MutationOutcome}
    (ended : ExistingCase fabric key queue request now reply)
    (found : fabric.queues.get? key = some queue) :
    Table.Related Identical fabric.queues reply.fabric.queues ∧
      reply.fabric.tables = { fabric.tables with queues := reply.fabric.queues } := by
  have replaced : ∀ {updated : QueueRecord}, Identical queue updated →
      Table.Related Identical fabric.queues (fabric.queues.insert key updated) :=
    fun identical => Table.related_insert Identical.refl found identical
  cases ended with
  | answered memo recorded =>
      rw [answerFromMemo]
      split
      · exact ⟨replaced (identical_rejectQueue ..), rfl⟩
      · split
        · exact ⟨replaced ⟨rfl, rfl, rfl, rfl⟩, rfl⟩
        · exact ⟨replaced ⟨rfl, rfl, rfl, rfl⟩, rfl⟩
  | refused tracker refusal unseen gate real =>
      exact ⟨replaced (identical_rejectQueue ..), rfl⟩
  | undurable tracker applied refusal after admitted durable failed real =>
      have same : after.tables = fabric.tables := (commitDurably_touch failed).tables
      simp only [Fabric.tables, Tables.mk.injEq] at same
      obtain ⟨config, epoch, resources, queues, names, next, identities⟩ := same
      refine ⟨?_, ?_⟩
      · simp only [reject, config, queues]
        exact replaced (identical_rejectQueue ..)
      · simp only [Fabric.tables, reject, countRejection, config, epoch, resources, queues, names,
          next]
        exact congrArg _ identities
  | published tracker applied after admitted committed =>
      have same : after.tables = fabric.tables := (published_touch committed).tables
      have identical : Identical queue (publishQueue after queue request applied
          (isDurable request.kind && after.journal.isSome)) :=
        (applyKindLocked_cases admitted.kind).identical.1.trans (identical_publishQueue ..)
      simp only [Fabric.tables, Tables.mk.injEq] at same
      obtain ⟨config, epoch, resources, queues, names, next, identities⟩ := same
      refine ⟨?_, ?_⟩
      · simp only [publish, queues]
        exact replaced identical
      · simp only [Fabric.tables, publish, config, epoch, resources, queues, names, next]
        exact congrArg _ identities

theorem ExistingCase.tableStep {fabric : Fabric J} {key : QueueId} {queue : QueueRecord}
    {request : MutationRequest} {now : Nanos} {reply : Reply J MutationOutcome}
    (ended : ExistingCase fabric key queue request now reply)
    (found : fabric.queues.get? key = some queue) :
    TableStep fabric.tables reply.fabric.tables :=
  .moved (ended.moved found).1 (ended.moved found).2

theorem DeclareCase.tableStep {fabric : Fabric J} {request : MutationRequest}
    {payload : DeclareQueuePayload} {now : Nanos} {reply : Reply J MutationOutcome}
    (ended : DeclareCase fabric request payload now reply) :
    TableStep fabric.tables reply.fabric.tables := by
  cases ended with
  | refused refusal => exact tableStep_of_eq rfl
  | answered id taken =>
      rw [answerDeclared]
      split
      · exact tableStep_of_eq rfl
      · split <;> exact tableStep_of_eq rfl
  | undurable resource refusal after declarable failed =>
      have same : after.tables = fabric.tables := (commitDurably_touch failed).tables
      exact tableStep_of_eq same
  | committed resource after declarable written =>
      have same : after.tables = fabric.tables := (commitDurably_touch written).tables
      have published : ∀ next : Fabric J, next.tables = after.tables →
          TableStep fabric.tables
            (next.publishDeclared request payload now resource).fabric.tables := by
        intro next kept
        rw [same] at kept
        refine .declared payload resource
          (next.declaredRecord request payload now next.journal.isSome) declarable.found
          declarable.free (admissible_of_checked declarable.checked) ?_ ?_
        · rw [← kept]
          exact declaredFrom_declaredRecord ..
        · rw [← kept]
          rfl
      rw [admitDeclared]
      split
      · exact published after rfl
      · simp only []
        split
        · exact tableStep_of_eq same
        · exact published _ rfl

theorem ApplyCase.tableStep {fabric : Fabric J} {request : MutationRequest} {now : Nanos}
    {reply : Reply J MutationOutcome} (ended : ApplyCase fabric request now reply) :
    TableStep fabric.tables reply.fabric.tables := by
  cases ended with
  | stopped stopping => exact tableStep_of_eq rfl
  | unbound refusal => exact tableStep_of_eq rfl
  | declare payload reply valid kind carried ended => exact ended.tableStep
  | existing queue reply valid kind found ended => exact ended.tableStep found

/-! Calls. -/

theorem Recorded.tableStep {α : Type} {before lost kept : Fabric J} {type : JournalRecordType}
    {payload : Bytes} {value : α} {reply : Reply J α}
    (recorded : Recorded before type payload lost kept value reply) {start : Tables}
    (onLost : TableStep start lost.tables) (onKept : TableStep start kept.tables) :
    TableStep start reply.fabric.tables := by
  cases recorded with
  | lost status events after touch written => exact touch.tables ▸ onLost
  | kept events after touch written => exact touch.tables ▸ onKept

omit [IJournal J] in
theorem Refused.tableStep {α : Type} {before : Fabric J} {reply : Reply J α}
    (refused : Refused before reply) : TableStep before.tables reply.fabric.tables := by
  rw [refused.touch.tables]
  refine .tended (related_of_eq rfl) rfl rfl rfl (.kept rfl rfl rfl fun series => ?_)
  cases series with
  | cls => exact refused.classId
  | pool => exact .inl rfl
  | backend => exact .inl rfl

omit [IJournal J] in
/-- An edited resource keeps its count and its epoch, and hands out at most one identity. -/
theorem ResourceEdit.tableStep {fabric : Fabric J} {call : Call}
    {lost kept : Table ResourceId ResourceRecord} {spent issued : Identities}
    {updated : ResourceRecord} (edit : ResourceEdit fabric call lost spent kept issued updated) :
    TableStep fabric.tables ({ fabric with resources := lost }.numbered spent).tables ∧
      TableStep fabric.tables ({ fabric with resources := kept }.numbered issued).tables := by
  have tended : ∀ {resources identities}, TopologyStep fabric.tables
        { fabric.tables with resources, identities } →
      TableStep fabric.tables { fabric.tables with resources, identities } :=
    fun topology => .tended (related_of_eq rfl) rfl rfl rfl topology
  have unwritten : TableStep fabric.tables fabric.tables := tableStep_of_eq rfl
  cases edit with
  | declared name owner provenance now short record made room =>
      refine ⟨unwritten, tended ?_⟩
      subst made
      refine .declared (fabric.declaredResource name owner provenance now) room rfl rfl rfl rfl
        rfl ?_ ?_
      · intro series
        cases series <;> rfl
      · intro series
        cases series <;> rfl
  | granted resource grantee capabilities principal epoch provenance record grants found shape =>
      refine ⟨unwritten, tended ?_⟩
      refine .edited resource record (withGrants record grants) found rfl rfl rfl rfl rfl ?_
      intro series
      cases series <;> exact .same
  | pooled resource name capacityBytes principal epoch provenance record pool pools nextPoolId
      found declared =>
      have issued := declarePoolIn_issued declared
      refine ⟨tended (.kept rfl rfl rfl fun series => ?_), tended ?_⟩
      · cases series with
        | cls => exact .inl rfl
        | pool => exact issued.spends
        | backend => exact .inl rfl
      · refine .edited resource record { record with pools } found rfl rfl rfl rfl rfl ?_
        intro series
        cases series with
        | cls => exact .same
        | pool => exact issued
        | backend => exact .same
  | registered resource incarnation principal epoch provenance record backends found added =>
      have step : TopologyStep fabric.tables { fabric.tables with
          resources := fabric.resources.insert resource { record with backends }
          identities := { fabric.identities with backend := fabric.nextBackendId + 1 } } := by
        refine .edited resource record { record with backends } found rfl rfl rfl rfl rfl ?_
        intro series
        cases series with
        | cls => exact .same
        | pool => exact .same
        | backend =>
            refine .inr ⟨?_, rfl⟩
            rw [added]
            exact List.map_append
      exact ⟨tended step, tended step⟩
  | buried backend incarnation principal epoch key record backends found killed =>
      refine ⟨unwritten, tended ?_⟩
      refine .edited key record { record with backends } found rfl rfl rfl rfl rfl ?_
      intro series
      cases series with
      | cls => exact .same
      | pool => exact .same
      | backend =>
          refine .inl ⟨?_, .inl rfl⟩
          rw [killed]
          exact killBackend_ids backend record.backends

theorem CommitCase.tableStep {fabric : Fabric J} {plan : BackendPlan} {queue : QueueRecord}
    {request : MutationRequest} {reply : Reply J MutationOutcome}
    (ended : CommitCase fabric plan queue request reply)
    (found : fabric.findQueue plan.queue = some queue) :
    TableStep fabric.tables reply.fabric.tables := by
  cases ended with
  | refused refused => exact refused.tableStep
  | lost status events after touch written => exact tableStep_of_eq touch.tables
  | served middle now inner events after touch written ended final journal =>
      have stored : middle.queues.get? plan.queue = some queue := by
        rw [touch.queues]
        exact found
      rw [final.tables, ← touch.tables]
      exact ended.tableStep stored

theorem ServeCase.tableStep {fabric : Fabric J} {call : Call} {reply : Reply J Answer}
    (ended : ServeCase fabric call reply) (living : call ≠ .recover) :
    TableStep fabric.tables reply.fabric.tables := by
  cases ended with
  | refused refused => exact refused.tableStep
  | recovered => exact absurd rfl living
  | stopped touch journal => exact tableStep_of_eq touch.tables
  | edited lost kept updated value spent issued edit recorded =>
      exact recorded.tableStep edit.tableStep.1 edit.tableStep.2
  | classed resource name priority qos principal epoch provenance record cls classes nextClassId
      generation found declared recorded =>
      have issued := declareClassIn_issued declared
      refine recorded.tableStep ?_ ?_
      · refine .tended (related_of_eq rfl) rfl rfl rfl (.kept rfl rfl rfl fun series => ?_)
        cases series with
        | cls => exact issued.spends
        | pool => exact .inl rfl
        | backend => exact .inl rfl
      · refine .tended (Table.related_mapValues _ fun key queue => ?_) rfl rfl rfl ?_
        · split
          · exact same_supersedeBinding queue
          · exact .refl queue
        · refine .edited resource record { record with classes, generation } found rfl rfl rfl rfl
            rfl ?_
          intro series
          cases series with
          | cls => exact issued
          | pool => exact .same
          | backend => exact .same
  | advanced principal provenance epoch payload minted recorded =>
      refine recorded.tableStep (tableStep_of_eq rfl) ?_
      exact .tended (Table.related_mapValues _ fun _ queue => same_supersedeEpoch queue) rfl rfl rfl
        (.advanced epoch rfl rfl rfl)
  | invalidated id principal epoch reason queue events after found touch journal =>
      rw [touch.tables]
      exact .tended (Table.related_insert Same.refl found (same_invalidateQueue queue)) rfl rfl rfl
        (.kept rfl rfl rfl fun _ => .inl rfl)
  | applied request now inner events after ended touch journal read =>
      rw [touch.tables]
      exact ended.tableStep
  | gated id expected principal provenance accepted refused => exact refused.tableStep
  | planned id expected principal provenance plan accepted recorded =>
      exact recorded.tableStep (tableStep_of_eq rfl) (tableStep_of_eq rfl)
  | committed plan applied provenance queue inner found ended => exact ended.tableStep found
  | aborted plan reason recorded =>
      exact recorded.tableStep (tableStep_of_eq rfl) (tableStep_of_eq rfl)
  | explained id principal touch journal => exact tableStep_of_eq touch.tables
  | refreshed now touch journal =>
      rw [touch.tables]
      exact .tended (Table.related_mapValues _ fun _ queue => same_refreshQueueLocked _ queue now)
        rfl rfl rfl (.kept rfl rfl rfl fun _ => .inl rfl)
  | compacted journal present touch rewritten => exact tableStep_of_eq touch.tables

theorem serve_tableStep (fabric : Fabric J) {call : Call} (living : call ≠ .recover) :
    TableStep fabric.tables (fabric.serve call).fabric.tables :=
  (serve_cases fabric call).tableStep living

end Fabric

end QueueFabric
