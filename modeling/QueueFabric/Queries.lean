import QueueFabric.Audit
import QueueFabric.Lib.Listing
import QueueFabric.RecordBounds

/-!
The read-only queries of a fabric, and how the answers of different queries fit
together in every state of a process life.
-/

namespace QueueFabric

open Fabric

namespace Fabric

variable {J : Type}

def queueRecord (fabric : Fabric J) (queue : QueueId) : Except Status QueueRecord :=
  match fabric.findQueue queue with
  | none => .error ⟨.notFound, "queue is not declared"⟩
  | some record => .ok record

def resourceRecord (fabric : Fabric J) (resource : ResourceId) : Except Status ResourceRecord :=
  match fabric.findResource resource with
  | none => .error ⟨.notFound, "resource is not declared"⟩
  | some record => .ok record

/-- `std::sort` of a listing by identity. -/
def sortQueues (queues : List QueueRecord) : List QueueRecord :=
  queues.mergeSort fun first second => first.definition.id.value ≤ second.definition.id.value

def queuesOf (fabric : Fabric J) (resource : ResourceId) : List QueueRecord :=
  sortQueues (fabric.queues.values.filter fun queue => queue.definition.resource = resource)

def allQueues (fabric : Fabric J) : List QueueRecord := sortQueues fabric.queues.values

/-- The public `find_queue`, by resource and name. -/
def findQueueNamed (fabric : Fabric J) (resource : ResourceId) (name : Text) :
    Except Status QueueId :=
  match fabric.queueNames.get? (nameKey resource name) with
  | none => .error ⟨.notFound, "queue name is not declared in this resource"⟩
  | some id => .ok id

/-- The public `find_resource`, by name. -/
def findResourceNamed (fabric : Fabric J) (name : Text) : Except Status ResourceId :=
  match fabric.resources.values.find? fun record => record.name = name with
  | none => .error ⟨.notFound, "resource name is not declared"⟩
  | some record => .ok record.id

def allResources (fabric : Fabric J) : List ResourceRecord :=
  fabric.resources.values.mergeSort fun first second => first.id.value ≤ second.id.value

/-- The answers of the queries fit together. -/
structure QueriesAgree (fabric : Fabric J) : Prop where
  queueNamed : ∀ resource name id, fabric.findQueueNamed resource name = .ok id ↔
    ∃ queue, fabric.queueRecord id = .ok queue ∧ queue.definition.resource = resource ∧
      queue.definition.name = name
  resourceNamed : ∀ name id, fabric.findResourceNamed name = .ok id ↔
    ∃ record, fabric.resourceRecord id = .ok record ∧ record.name = name
  queues : ∀ resource queue, queue ∈ fabric.queuesOf resource ↔
    fabric.queueRecord queue.definition.id = .ok queue ∧ queue.definition.resource = resource
  queuesAscend : ∀ resource, (fabric.queuesOf resource).Pairwise fun first second =>
    first.definition.id.value < second.definition.id.value
  resources : ∀ record, record ∈ fabric.allResources ↔
    fabric.resourceRecord record.id = .ok record
  resourcesAscend : fabric.allResources.Pairwise fun first second =>
    first.id.value < second.id.value
  counted : ∀ id record, fabric.resourceRecord id = .ok record →
    (fabric.queuesOf id).length = record.queueCount.toNat
  ascend : fabric.allQueues.Pairwise fun first second =>
    first.definition.id.value < second.definition.id.value
  divided : fabric.allQueues.Perm
    (fabric.allResources.flatMap fun record => fabric.queuesOf record.id)

theorem queueRecord_eq_ok {fabric : Fabric J} {id : QueueId} {queue : QueueRecord} :
    fabric.queueRecord id = .ok queue ↔ fabric.findQueue id = some queue := by
  rw [queueRecord]
  cases fabric.findQueue id with
  | none => simp
  | some record => simp

theorem resourceRecord_eq_ok {fabric : Fabric J} {id : ResourceId} {record : ResourceRecord} :
    fabric.resourceRecord id = .ok record ↔ fabric.findResource id = some record := by
  rw [resourceRecord]
  cases fabric.findResource id with
  | none => simp
  | some record => simp

theorem findQueueNamed_eq_ok {fabric : Fabric J} {resource : ResourceId} {name : Text}
    {id : QueueId} : fabric.findQueueNamed resource name = .ok id ↔
      fabric.queueNames.get? (nameKey resource name) = some id := by
  rw [findQueueNamed]
  cases fabric.queueNames.get? (nameKey resource name) with
  | none => simp
  | some other => simp

/-! Resource names. -/

/-- Every resource is stored under its identity, and no name is given twice. -/
structure Labelled (resources : Table ResourceId ResourceRecord) : Prop where
  keyed : ∀ id record, resources.get? id = some record → record.id = id
  unique : ∀ first second one two, resources.get? first = some one →
    resources.get? second = some two → one.name = two.name → first = second

/-- The identity and the name stay. -/
def SameLabel (before after : ResourceRecord) : Prop :=
  after.id = before.id ∧ after.name = before.name

theorem sameLabel_refl (record : ResourceRecord) : SameLabel record record := ⟨rfl, rfl⟩

theorem Labelled.related {before after : Table ResourceId ResourceRecord}
    (labelled : Labelled before) (related : Table.Related SameLabel before after) :
    Labelled after where
  keyed id record found := by
    obtain ⟨old, held, same⟩ := related.get? found
    exact same.1.trans (labelled.keyed id old held)
  unique first second one two foundOne foundTwo named := by
    obtain ⟨oldOne, heldOne, sameOne⟩ := related.get? foundOne
    obtain ⟨oldTwo, heldTwo, sameTwo⟩ := related.get? foundTwo
    refine labelled.unique first second oldOne oldTwo heldOne heldTwo ?_
    rw [← sameOne.2, ← sameTwo.2]
    exact named

theorem Labelled.emplace {resources : Table ResourceId ResourceRecord}
    (labelled : Labelled resources) {record : ResourceRecord}
    (unnamed : ∀ id stored, resources.get? id = some stored → stored.name ≠ record.name) :
    Labelled (resources.emplace record.id record) := by
  -- An entry of the new table is an old one, or the new record under its identity.
  have origin : ∀ id found, (resources.emplace record.id record).get? id = some found →
      resources.get? id = some found ∨ record.id = id ∧ record = found := by
    intro id found stored
    rw [Table.get?_emplace] at stored
    cases held : resources.get? id with
    | some old =>
        rw [held, Option.some_or] at stored
        exact .inl stored
    | none =>
        rw [held, Option.none_or] at stored
        split at stored
        · rename_i here
          exact .inr ⟨here, Option.some.inj stored⟩
        · cases stored
  constructor
  · intro id found stored
    rcases origin id found stored with old | ⟨here, rfl⟩
    · exact labelled.keyed id found old
    · exact here
  · intro first second one two foundOne foundTwo named
    rcases origin first one foundOne with oldOne | ⟨hereOne, rfl⟩
    · rcases origin second two foundTwo with oldTwo | ⟨hereTwo, rfl⟩
      · exact labelled.unique first second one two oldOne oldTwo named
      · exact absurd named (unnamed first one oldOne)
    · rcases origin second two foundTwo with oldTwo | ⟨hereTwo, rfl⟩
      · exact absurd named.symm (unnamed second two oldTwo)
      · exact hereOne.symm.trans hereTwo

theorem Labelled.insert {resources : Table ResourceId ResourceRecord}
    (labelled : Labelled resources) {key : ResourceId} {old new : ResourceRecord}
    (found : resources.get? key = some old) (same : SameLabel old new) :
    Labelled (resources.insert key new) :=
  labelled.related (Table.related_insert sameLabel_refl found same)

/-- What an apply leaves of the resources carries their labels. -/
theorem Labelled.carried {before after : Table ResourceId ResourceRecord}
    (labelled : Labelled before) (carried : Table.Related ResourceRecord.Carried before after) :
    Labelled after :=
  labelled.related (carried.imp fun _ _ same => ⟨same.id, same.name⟩)

section Served

variable [IJournal J] {fabric : Fabric J}

theorem Recorded.labelled {α : Type} {before lost kept : Fabric J} {type : JournalRecordType}
    {payload : Bytes} {value : α} {reply : Reply J α}
    (recorded : Recorded before type payload lost kept value reply)
    (onLost : Labelled lost.resources) (onKept : Labelled kept.resources) :
    Labelled reply.fabric.resources := by
  cases recorded with
  | lost status events after touch written => exact touch.resources ▸ onLost
  | kept events after touch written => exact touch.resources ▸ onKept

theorem declareResource_labelled (labelled : Labelled fabric.resources) (name : Text)
    (owner : OwnerId) (provenance : Provenance) :
    Labelled (fabric.declareResource name owner provenance).fabric.resources := by
  rcases declareResource_cases fabric name owner provenance with
    refused | ⟨now, _, _, _, unnamed, recorded⟩
  · exact refused.touch.resources ▸ labelled
  · exact recorded.labelled labelled (labelled.emplace unnamed)

omit [IJournal J] in
theorem ResourceEdit.labelled {call : Call} {lost kept : Table ResourceId ResourceRecord}
    {spent issued : Identities} {updated : ResourceRecord}
    (edit : ResourceEdit fabric call lost spent kept issued updated)
    (existing : ∀ name owner provenance, call ≠ .declareResource name owner provenance)
    (labelled : Labelled fabric.resources) : Labelled lost ∧ Labelled kept := by
  cases edit with
  | declared name owner provenance => exact absurd rfl (existing name owner provenance)
  | granted resource grantee capabilities principal epoch provenance record grants found shape =>
      exact ⟨labelled, labelled.insert found ⟨rfl, rfl⟩⟩
  | pooled resource name capacityBytes principal epoch provenance record pool pools nextPoolId
      found declared => exact ⟨labelled, labelled.insert found ⟨rfl, rfl⟩⟩
  | registered resource incarnation principal epoch provenance record backends found added =>
      exact ⟨labelled.insert found ⟨rfl, rfl⟩, labelled.insert found ⟨rfl, rfl⟩⟩
  | buried backend incarnation principal epoch key record backends found killed =>
      exact ⟨labelled, labelled.insert found ⟨rfl, rfl⟩⟩

theorem serve_labelled (labelled : Labelled fabric.resources) {call : Call}
    (living : call ≠ .recover) : Labelled (fabric.serve call).fabric.resources := by
  by_cases declares : ∃ name owner provenance, call = .declareResource name owner provenance
  · obtain ⟨name, owner, provenance, rfl⟩ := declares
    exact declareResource_labelled labelled name owner provenance
  have existing : ∀ name owner provenance, call ≠ .declareResource name owner provenance :=
    fun name owner provenance same => declares ⟨name, owner, provenance, same⟩
  have ended := serve_cases fabric call
  generalize fabric.serve call = reply at ended ⊢
  cases ended with
  | refused refused => exact refused.touch.resources ▸ labelled
  | recovered => exact absurd rfl living
  | stopped touch journal => exact touch.resources ▸ labelled
  | edited lost kept updated value spent issued edit recorded =>
      obtain ⟨onLost, onKept⟩ := edit.labelled existing labelled
      exact recorded.labelled onLost onKept
  | classed resource name priority qos principal epoch provenance record cls classes nextClassId
      generation found declared recorded =>
      exact recorded.labelled labelled (labelled.insert found ⟨rfl, rfl⟩)
  | advanced principal provenance epoch payload minted recorded =>
      refine recorded.labelled labelled (labelled.carried ?_)
      exact Table.related_mapValues _ fun _ record =>
        ResourceRecord.carried_withEpoch epoch record
  | invalidated id principal epoch reason queue events after found touch journal =>
      exact touch.resources ▸ labelled
  | applied request now inner events after ended touch journal =>
      rw [touch.resources]
      exact labelled.carried ended.carried
  | gated id expected principal provenance accepted refused =>
      exact refused.touch.resources ▸ labelled
  | planned id expected principal provenance plan accepted recorded =>
      exact recorded.labelled labelled labelled
  | committed plan applied provenance queue inner found ended =>
      exact labelled.carried ended.carried
  | aborted plan reason recorded => exact recorded.labelled labelled labelled
  | explained id principal touch journal => exact touch.resources ▸ labelled
  | refreshed now touch journal => exact touch.resources ▸ labelled
  | compacted journal present touch rewritten => exact touch.resources ▸ labelled

end Served

/-! Agreement. -/

variable {fabric : Fabric J}

theorem mem_sortQueues {queue : QueueRecord} {queues : List QueueRecord} :
    queue ∈ sortQueues queues ↔ queue ∈ queues := List.mem_mergeSort

theorem queues_apart (consistent : Consistent fabric) :
    fabric.queues.values.Pairwise fun first second =>
      first.definition.id.value ≠ second.definition.id.value := by
  refine (fabric.queues.values_apart (fun queue => queue.definition.id)
    consistent.indexed.keyed).imp fun different same => ?_
  exact different (Ident.ext same)

theorem mem_queues (consistent : Consistent fabric) {queue : QueueRecord} :
    queue ∈ fabric.queues.values ↔ fabric.queueRecord queue.definition.id = .ok queue := by
  rw [Table.mem_values, queueRecord_eq_ok]
  constructor
  · rintro ⟨key, found⟩
    rw [consistent.indexed.keyed key queue found]
    exact found
  · intro found
    exact ⟨_, found⟩

theorem mem_queuesOf (consistent : Consistent fabric) {resource : ResourceId}
    {queue : QueueRecord} : queue ∈ fabric.queuesOf resource ↔
      fabric.queueRecord queue.definition.id = .ok queue ∧
        queue.definition.resource = resource := by
  rw [queuesOf, mem_sortQueues, List.mem_filter, mem_queues consistent, decide_eq_true_eq]

theorem queuesOf_ascend (consistent : Consistent fabric) (resource : ResourceId) :
    (fabric.queuesOf resource).Pairwise fun first second =>
      first.definition.id.value < second.definition.id.value :=
  ascending_mergeSort (fun queue : QueueRecord => queue.definition.id.value)
    ((queues_apart consistent).filter _)

theorem allQueues_ascend (consistent : Consistent fabric) :
    fabric.allQueues.Pairwise fun first second =>
      first.definition.id.value < second.definition.id.value :=
  ascending_mergeSort (fun queue : QueueRecord => queue.definition.id.value)
    (queues_apart consistent)

theorem mem_allResources (labelled : Labelled fabric.resources) {record : ResourceRecord} :
    record ∈ fabric.allResources ↔ fabric.resourceRecord record.id = .ok record := by
  rw [allResources, List.mem_mergeSort, Table.mem_values, resourceRecord_eq_ok]
  constructor
  · rintro ⟨key, found⟩
    rw [labelled.keyed key record found]
    exact found
  · intro found
    exact ⟨_, found⟩

theorem allResources_ascend (labelled : Labelled fabric.resources) :
    fabric.allResources.Pairwise fun first second => first.id.value < second.id.value := by
  refine ascending_mergeSort (fun record : ResourceRecord => record.id.value) ?_
  refine (fabric.resources.values_apart (fun record => record.id)
    labelled.keyed).imp fun different same => ?_
  exact different (Ident.ext same)

theorem findResourceNamed_eq_ok (labelled : Labelled fabric.resources) {name : Text}
    {id : ResourceId} : fabric.findResourceNamed name = .ok id ↔
      ∃ record, fabric.findResource id = some record ∧ record.name = name := by
  rw [findResourceNamed]
  cases first : fabric.resources.values.find? fun record => record.name = name with
  | none =>
      rw [List.find?_eq_none] at first
      constructor
      · intro same
        cases same
      · rintro ⟨record, found, named⟩
        refine absurd (decide_eq_true named) (first record ?_)
        exact (Table.mem_values _ _).mpr ⟨id, found⟩
  | some record =>
      have named : record.name = name := by
        simpa using List.find?_some first
      obtain ⟨key, found⟩ := (Table.mem_values _ _).mp (List.mem_of_find?_eq_some first)
      have keyed := labelled.keyed key record found
      simp only [Except.ok.injEq, keyed]
      constructor
      · rintro rfl
        exact ⟨record, found, named⟩
      · rintro ⟨other, held, same⟩
        exact labelled.unique key id record other found held (named.trans same.symm)

/-- The queues of the resources, one resource after the other, are all the queues. -/
theorem allQueues_divided (consistent : Consistent fabric)
    (labelled : Labelled fabric.resources) :
    fabric.allQueues.Perm
      (fabric.allResources.flatMap fun record => fabric.queuesOf record.id) := by
  have whole : fabric.allQueues.Nodup :=
    (allQueues_ascend consistent).imp fun below same => by
      rw [same] at below
      exact UInt64.lt_irrefl _ below
  have parts : (fabric.allResources.flatMap fun record => fabric.queuesOf record.id).Nodup := by
    rw [List.nodup_flatMap]
    refine ⟨fun record _ => (queuesOf_ascend consistent record.id).imp fun below same => ?_, ?_⟩
    · rw [same] at below
      exact UInt64.lt_irrefl _ below
    · refine (allResources_ascend labelled).imp fun below queue here there => ?_
      rw [← ((mem_queuesOf consistent).mp here).2, ← ((mem_queuesOf consistent).mp there).2]
        at below
      exact UInt64.lt_irrefl _ below
  rw [List.perm_ext_iff_of_nodup whole parts]
  intro queue
  rw [allQueues, mem_sortQueues, mem_queues consistent, List.mem_flatMap]
  constructor
  · intro found
    obtain ⟨record, home⟩ := consistent.housed.home _ _ (queueRecord_eq_ok.mp found)
    have keyed := labelled.keyed _ record home
    refine ⟨record, (mem_allResources labelled).mpr ?_, (mem_queuesOf consistent).mpr ?_⟩
    · rw [resourceRecord_eq_ok, keyed]
      exact home
    · exact ⟨found, keyed.symm⟩
  · rintro ⟨record, _, listed⟩
    exact ((mem_queuesOf consistent).mp listed).1

theorem queriesAgree (consistent : Consistent fabric) (labelled : Labelled fabric.resources) :
    QueriesAgree fabric where
  queueNamed resource name id := by
    rw [findQueueNamed_eq_ok]
    simp only [queueRecord_eq_ok]
    exact consistent.audited.named resource name id
  resourceNamed name id := by
    simp only [resourceRecord_eq_ok]
    exact findResourceNamed_eq_ok labelled
  queues resource queue := mem_queuesOf consistent
  queuesAscend := queuesOf_ascend consistent
  resources record := mem_allResources labelled
  resourcesAscend := allResources_ascend labelled
  counted id record found := by
    rw [queuesOf, sortQueues, List.length_mergeSort, ← List.countP_eq_length_filter,
      consistent.housed.counted id record (resourceRecord_eq_ok.mp found), resourceQueues]
    rfl
  ascend := allQueues_ascend consistent
  divided := allQueues_divided consistent labelled

end Fabric

namespace System

/-- The tables are consistent and the resources labelled. -/
structure Queried (system : System) : Prop where
  consistent : Consistent system.fabric
  labelled : Labelled system.fabric.resources
  strict : system.fabric.config.occupancy.requireGenerationMatch = true

theorem Queried.step {system : System} (queried : Queried system) {input : Step}
    (living : Living system input) : Queried (system.step input) := by
  cases input with
  | restart => exact absurd living id
  | call call script =>
      have kept := queried.consistent
      have scripted : Consistent (withScript system.fabric script) :=
        ⟨kept.indexed, kept.housed, kept.lodged, kept.sound⟩
      refine ⟨scripted.serve queried.strict living, ?_, ?_⟩
      · exact @serve_labelled StableStore _ (withScript system.fabric script) queried.labelled
          call living
      · rw [config_step]
        exact queried.strict

/-- In every state of a process life the queries agree with one another. -/
theorem queries_agree_of_life (config : FabricConfig) (journaled : Bool) (clock : Clock)
    (seed : UInt64) (script : List Bool) (steps : List Step)
    (strict : config.occupancy.requireGenerationMatch = true)
    (living : Runs.Along step Living
      (boot config (if journaled then some {} else none) clock seed script) steps) :
    ((boot config (if journaled then some {} else none) clock seed script).run
      steps).fabric.QueriesAgree := by
  obtain ⟨epoch, blank⟩ := boot_tables config journaled clock seed script
  have queried : Queried
      ((boot config (if journaled then some {} else none) clock seed script).run steps) := by
    refine Runs.invariant (fun state input held allowed => held.step allowed) ?_ living
    refine ⟨consistent_of_blank blank, ?_, ?_⟩
    · have empty : (boot config (if journaled then some {} else none) clock seed
          script).fabric.resources = .empty := congrArg Tables.resources blank
      rw [empty]
      constructor
      · intro id record found
        cases found
      · intro first second one two found
        cases found
    · rw [config_boot]
      exact strict
  exact queriesAgree queried.consistent queried.labelled

theorem queries_agree_of_life_sample :
    (sampleStart.run sampleSteps).fabric.allQueues.length = 1 ∧
      (sampleStart.run sampleSteps).fabric.QueriesAgree := by
  have living : Runs.Along step Living sampleStart sampleSteps :=
    ⟨Call.noConfusion, Call.noConfusion, Call.noConfusion, Call.noConfusion, trivial⟩
  exact ⟨by decide +kernel, queries_agree_of_life {} true ⟨fun _ => 1000, 0⟩ 7 [] sampleSteps rfl
    living⟩

end System

end QueueFabric
