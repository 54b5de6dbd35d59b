import QueueFabric.ApplyCases

/-!
What every other public call can do. A call is refused before it writes, or it
writes one record and then either keeps or loses its effect; `Recorded` says so
once and each call names its record and its effect.
-/

namespace QueueFabric

namespace Fabric

variable {J : Type}

theorem monotonicNow_touch (fabric : Fabric J) : Touch fabric fabric.monotonicNow.2 :=
  ⟨rfl, rfl, rfl, rfl, rfl, rfl, rfl, rfl, rfl, rfl, id⟩

@[simp] theorem monotonicNow_journal (fabric : Fabric J) :
    fabric.monotonicNow.2.journal = fabric.journal := rfl

theorem emitted_touch (fabric : Fabric J) (events : List Event) :
    Touch fabric (fabric.emitted events) :=
  ⟨rfl, rfl, rfl, rfl, rfl, rfl, rfl, rfl, rfl, rfl, id⟩

/-- Refused before anything was written; a refused class may still have used up its identity. -/
structure Refused {α : Type} (before : Fabric J) (reply : Reply J α) : Prop where
  failed : ∃ status, reply.result = .error status
  touch : Touch { before with nextClassId := reply.fabric.nextClassId } reply.fabric
  journal : reply.fabric.journal = before.journal
  classId : reply.fabric.nextClassId = before.nextClassId ∨
    reply.fabric.nextClassId = before.nextClassId + 1

theorem Refused.queues {α : Type} {before : Fabric J} {reply : Reply J α}
    (refused : Refused before reply) : reply.fabric.queues = before.queues := refused.touch.queues

theorem refused_refuse {α : Type} (fabric : Fabric J) (status : Status) :
    Refused fabric (fabric.refuse status : Reply J α) :=
  ⟨⟨status, rfl⟩, .refl fabric, rfl, .inl rfl⟩

theorem refused_now {α : Type} (fabric : Fabric J) (status : Status) :
    Refused fabric (fabric.monotonicNow.2.refuse status : Reply J α) :=
  ⟨⟨status, rfl⟩, monotonicNow_touch fabric, rfl, .inl rfl⟩

variable [IJournal J]

/-- One record offered to the journal, and whether the write was accepted. -/
inductive Written (type : JournalRecordType) (payload : Bytes) :
    Option J → Bool → Option J → Prop
  | unjournaled : Written type payload none true none
  | required : Written type payload none false none
  | appendFailed (journal : J)
      (failed : (IJournal.append journal type payload).1.isOk = false) :
      Written type payload (some journal) false (some (IJournal.append journal type payload).2)
  | syncFailed (journal : J)
      (appended : (IJournal.append journal type payload).1.isOk = true)
      (failed : (IJournal.sync (IJournal.append journal type payload).2).1.isOk = false) :
      Written type payload (some journal) false
        (some (IJournal.sync (IJournal.append journal type payload).2).2)
  | synced (journal : J)
      (appended : (IJournal.append journal type payload).1.isOk = true)
      (flushed : (IJournal.sync (IJournal.append journal type payload).2).1.isOk = true) :
      Written type payload (some journal) true
        (some (IJournal.sync (IJournal.append journal type payload).2).2)

/-- A write left the engine alone and did what `Written` says to the journal. -/
structure Persisted (fabric : Fabric J) (type : JournalRecordType) (payload : Bytes)
    (result : Status × Fabric J) : Prop where
  touch : Touch fabric result.2
  written : Written type payload fabric.journal result.1.isOk result.2.journal

theorem persistIn_persisted (fabric : Fabric J) (journal : J) (present : fabric.journal = some journal)
    (type : JournalRecordType) (payload : Bytes) (lost : String) :
    Persisted fabric type payload (fabric.persistIn journal type payload lost) := by
  rw [persistIn]
  cases appended : (IJournal.append journal type payload).1.isOk with
  | false =>
      simp only [appended, Bool.not_false, ↓reduceIte]
      refine ⟨⟨rfl, rfl, rfl, rfl, rfl, rfl, rfl, rfl, rfl, rfl, id⟩, ?_⟩
      rw [present, appended]
      exact .appendFailed journal appended
  | true =>
      cases flushed : (IJournal.sync (IJournal.append journal type payload).2).1.isOk with
      | false =>
          simp only [appended, flushed, Bool.not_true, Bool.not_false, Bool.false_eq_true,
            ↓reduceIte]
          refine ⟨⟨rfl, rfl, rfl, rfl, rfl, rfl, rfl, rfl, rfl, rfl, fun well => ?_⟩, ?_⟩
          · cases well
          rw [present]
          exact .syncFailed journal appended flushed
      | true =>
          simp only [appended, flushed, Bool.not_true, Bool.false_eq_true, ↓reduceIte]
          refine ⟨⟨rfl, rfl, rfl, rfl, rfl, rfl, rfl, rfl, rfl, rfl, id⟩, ?_⟩
          rw [present]
          exact .synced journal appended flushed

theorem persist_persisted (fabric : Fabric J) (type : JournalRecordType) (payload : Bytes)
    (lost : String) : Persisted fabric type payload (fabric.persist type payload lost) := by
  rw [persist]
  cases present : fabric.journal with
  | some journal => exact persistIn_persisted fabric journal present type payload lost
  | none =>
      simp only []
      split
      · refine ⟨.refl fabric, ?_⟩
        rw [present]
        exact .required
      · refine ⟨.refl fabric, ?_⟩
        rw [present]
        exact .unjournaled

theorem persistIfJournaled_persisted (fabric : Fabric J) (type : JournalRecordType)
    (payload : Bytes) (lost : String) :
    Persisted fabric type payload (fabric.persistIfJournaled type payload lost) := by
  rw [persistIfJournaled]
  cases present : fabric.journal with
  | some journal => exact persistIn_persisted fabric journal present type payload lost
  | none =>
      refine ⟨.refl fabric, ?_⟩
      rw [present]
      exact .unjournaled

/-- One record was offered: `lost` is the engine after a failed write, `kept` after a good one. -/
inductive Recorded {α : Type} (before : Fabric J) (type : JournalRecordType) (payload : Bytes)
    (lost kept : Fabric J) (value : α) : Reply J α → Prop
  | lost (status : Status) (events : List Event) (after : Fabric J) (touch : Touch lost after)
      (written : Written type payload before.journal false after.journal) :
      Recorded before type payload lost kept value ⟨.error status, events, after⟩
  | kept (events : List Event) (after : Fabric J) (touch : Touch kept after)
      (written : Written type payload before.journal true after.journal) :
      Recorded before type payload lost kept value ⟨.ok value, events, after⟩

theorem Persisted.recorded {α : Type} {start kept : Fabric J} {type : JournalRecordType}
    {payload : Bytes} {result : Status × Fabric J} {value : α}
    (persisted : Persisted start type payload result) (publish : Fabric J → Reply J α)
    (onKept : ∀ middle, Touch start middle → ∃ events after,
      publish middle = ⟨.ok value, events, after⟩ ∧ Touch kept after ∧
        after.journal = middle.journal) :
    Recorded start type payload start kept value (orRefuse result publish) := by
  have written := persisted.written
  rw [orRefuse]
  cases flag : result.1.isOk with
  | false =>
      rw [flag] at written
      exact .lost _ _ _ persisted.touch written
  | true =>
      rw [flag] at written
      obtain ⟨events, after, published, touch, sameJournal⟩ := onKept result.2 persisted.touch
      simp only [Bool.not_true, Bool.false_eq_true, ↓reduceIte, published]
      exact .kept _ _ touch (sameJournal ▸ written)

omit [IJournal J] in
theorem announce_kept {α : Type} (fabric : Fabric J) (value : α) (event : Nanos → Event) :
    ∃ events after, fabric.announce value event = ⟨.ok value, events, after⟩ ∧
      Touch fabric after ∧ after.journal = fabric.journal :=
  ⟨_, _, rfl, ⟨rfl, rfl, rfl, rfl, rfl, rfl, rfl, rfl, rfl, rfl, id⟩, rfl⟩

omit [IJournal J] in
/-- Replacing the resource table commutes with changes that `Touch` allows. -/
theorem Touch.withResources {before after : Fabric J} (touch : Touch before after)
    (update : Table ResourceId ResourceRecord → Table ResourceId ResourceRecord) :
    Touch { before with resources := update before.resources }
      { after with resources := update after.resources } :=
  ⟨touch.config, touch.replaying, touch.epoch, touch.provenance,
    congrArg update touch.resources, touch.queues, touch.queueNames, touch.nextQueueId,
    touch.fenceTokens, touch.identities, touch.healthy⟩

omit [IJournal J] in
theorem Touch.renumbered {before after : Fabric J} (touch : Touch before after)
    (update : Identities → Identities) :
    Touch (before.numbered (update before.identities))
      (after.numbered (update after.identities)) :=
  ⟨touch.config, touch.replaying, touch.epoch, touch.provenance, touch.resources, touch.queues,
    touch.queueNames, touch.nextQueueId, touch.fenceTokens, congrArg update touch.identities,
    touch.healthy⟩

/-! Topology. -/

theorem admitResource_cases (fabric : Fabric J) (record : ResourceRecord) :
    Refused fabric (fabric.admitResource record) ∨
      Recorded fabric .resourceState (encodeResourceState record) fabric
        ({ fabric with resources := fabric.resources.emplace record.id record }.numbered
          { fabric.identities with resource := fabric.nextResourceId + 1 }) record.id
        (fabric.admitResource record) := by
  rw [admitResource]
  split
  · exact .inl (refused_refuse _ _)
  · refine .inr ((persist_persisted fabric _ _ _).recorded _ ?_)
    intro middle touch
    obtain ⟨events, after, announced, kept, journal⟩ := announce_kept
      { middle with
        nextResourceId := middle.nextResourceId + 1
        resources := middle.resources.emplace record.id record } record.id
      (topologyEvent record.id "resource declared")
    refine ⟨events, after, announced, ?_, journal⟩
    have next := touch.renumbered fun ids => { ids with resource := ids.resource + 1 }
    exact (next.withResources (·.emplace record.id record)).trans kept

omit [IJournal J] in
theorem Refused.of_touch {α : Type} {before start : Fabric J} {reply : Reply J α}
    (refused : Refused start reply) (touch : Touch before start)
    (journal : start.journal = before.journal) : Refused before reply :=
  { failed := refused.failed
    touch := (touch.renumbered fun ids => { ids with cls := reply.fabric.nextClassId }).trans
      refused.touch
    journal := refused.journal.trans journal
    classId := by
      have same : start.nextClassId = before.nextClassId :=
        congrArg Identities.cls touch.identities
      rw [← same]
      exact refused.classId }

theorem Recorded.of_touch {α : Type} {before start lost lost' kept kept' : Fabric J}
    {type : JournalRecordType} {payload : Bytes} {value : α} {reply : Reply J α}
    (recorded : Recorded start type payload lost kept value reply)
    (journal : start.journal = before.journal) (onLost : Touch lost' lost)
    (onKept : Touch kept' kept) : Recorded before type payload lost' kept' value reply := by
  cases recorded with
  | lost status events after touch written =>
      exact .lost status events after (onLost.trans touch) (journal ▸ written)
  | kept events after touch written =>
      exact .kept events after (onKept.trans touch) (journal ▸ written)

theorem declareResource_cases (fabric : Fabric J) (name : Text) (owner : OwnerId)
    (provenance : Provenance) :
    Refused fabric (fabric.declareResource name owner provenance) ∨
      ∃ now, now = fabric.monotonicNow.1 ∧ name.length ≤ Limits.maxNameChars ∧
        fabric.resources.size < fabric.config.limits.maxResources.toNat ∧
        (∀ id stored, fabric.findResource id = some stored → stored.name ≠ name) ∧
        let record := fabric.declaredResource name owner provenance now
        Recorded fabric .resourceState (encodeResourceState record) fabric
          ({ fabric with resources := fabric.resources.emplace record.id record }.numbered
            { fabric.identities with resource := fabric.nextResourceId + 1 }) record.id
          (fabric.declareResource name owner provenance) := by
  rw [declareResource]
  split
  · exact .inl (refused_refuse _ _)
  split
  · exact .inl (refused_refuse _ _)
  split
  · exact .inl (refused_refuse _ _)
  split
  · exact .inl (refused_refuse _ _)
  split
  · exact .inl (refused_refuse _ _)
  rename_i nameBound
  split
  · exact .inl (refused_refuse _ _)
  rename_i room
  split
  · exact .inl (refused_refuse _ _)
  rename_i unnamed
  rw [atNow]
  have touch := monotonicNow_touch fabric
  rcases admitResource_cases fabric.monotonicNow.2
    (fabric.monotonicNow.2.declaredResource name owner provenance fabric.monotonicNow.1)
    with refused | recorded
  · exact .inl (refused.of_touch touch rfl)
  · refine .inr ⟨fabric.monotonicNow.1, rfl, ?_, Nat.lt_of_not_le room, ?_, ?_⟩
    · simp only [Bool.or_eq_true, decide_eq_true_eq, not_or, not_lt] at nameBound
      exact nameBound.2
    · intro id stored found same
      have listed : stored ∈ fabric.resources.values :=
        List.mem_map_of_mem ((Table.mem_entries_iff _ _ _).mpr found)
      exact unnamed (List.any_eq_true.mpr ⟨stored, listed, by simpa using same⟩)
    · have next := touch.renumbered fun ids => { ids with resource := ids.resource + 1 }
      exact recorded.of_touch rfl touch (next.withResources (·.emplace _ _))

theorem publishResource_recorded {α : Type} (fabric : Fabric J) (updated : ResourceRecord)
    (id : ResourceId) (lost : String) (publish : Fabric J → Reply J α)
    (next : Fabric J) (value : α)
    (publishes : ∀ middle, Touch fabric middle → ∃ events after,
      publish { middle with resources := middle.resources.insert id updated } =
        ⟨.ok value, events, after⟩ ∧ Touch next after ∧ after.journal = middle.journal) :
    Recorded fabric .resourceState (encodeResourceState updated) fabric next value
      (fabric.publishResource updated id lost publish) :=
  (persist_persisted fabric _ _ _).recorded
    (fun middle => publish { middle with resources := middle.resources.insert id updated })
    publishes

theorem grantCapabilities_cases (fabric : Fabric J) (resource : ResourceId) (grantee : OwnerId)
    (capabilities : UInt32) (principal : OwnerId) (epoch : Epoch) (provenance : Provenance) :
    Refused fabric (fabric.grantCapabilities resource grantee capabilities principal epoch
      provenance) ∨
      ∃ record grants, fabric.findResource resource = some record ∧
        (replaceGrant grantee capabilities record.authority.grants = some grants ∨
          replaceGrant grantee capabilities record.authority.grants = none ∧
            grants = record.authority.grants ++ [⟨grantee, capabilities⟩]) ∧
        Recorded fabric .resourceState (encodeResourceState (withGrants record grants)) fabric
          { fabric with resources := fabric.resources.insert resource (withGrants record grants) }
          () (fabric.grantCapabilities resource grantee capabilities principal epoch
            provenance) := by
  have finish : ∀ updated : ResourceRecord,
      Recorded fabric .resourceState (encodeResourceState updated) fabric
        { fabric with resources := fabric.resources.insert resource updated } ()
        (fabric.publishResource updated resource "capability grant is not durable"
          fun fabric => fabric.announce ()
            (topologyEvent resource "capabilities granted")) := by
    intro updated
    apply publishResource_recorded
    intro middle touch
    obtain ⟨events, after, announced, kept, journal⟩ := announce_kept
      { middle with resources := middle.resources.insert resource updated } ()
      (topologyEvent resource "capabilities granted")
    exact ⟨events, after, announced, (touch.withResources (·.insert resource updated)).trans kept,
      journal⟩
  rw [grantCapabilities]
  split
  · exact .inl (refused_refuse _ _)
  split
  · exact .inl (refused_refuse _ _)
  split
  · exact .inl (refused_refuse _ _)
  rename_i record found
  split
  · exact .inl (refused_refuse _ _)
  split
  · exact .inl (refused_refuse _ _)
  split
  · rename_i grants replaced
    exact .inr ⟨record, grants, found, .inl replaced, finish _⟩
  · rename_i replaced
    split
    · exact .inl (refused_refuse _ _)
    · exact .inr ⟨record, _, found, .inr ⟨replaced, rfl⟩, finish _⟩

theorem publishClass_recorded (fabric : Fabric J) (updated : ResourceRecord)
    (resource : ResourceId) (cls : ClassId) :
    Recorded fabric .resourceState (encodeResourceState updated) fabric
      { fabric with
        resources := fabric.resources.insert resource updated
        queues := invalidateBound updated resource cls fabric.queues } cls
      (fabric.publishClass updated resource cls) := by
  apply publishResource_recorded
  intro middle touch
  refine ⟨_, _, rfl, ?_, rfl⟩
  exact ⟨touch.config, touch.replaying, touch.epoch, touch.provenance,
    congrArg (·.insert resource updated) touch.resources,
    congrArg (invalidateBound updated resource cls) touch.queues, touch.queueNames,
    touch.nextQueueId, touch.fenceTokens, touch.identities, touch.healthy⟩

omit [IJournal J] in
theorem declareClassIn_next {fabric : Fabric J} {record : ResourceRecord} {resource : ResourceId}
    {name : Text} {priority : UInt32} {qos : QosRef} {provenance : Provenance} {cls : ClassId}
    {classes : List SchedulingClassDef} {nextClassId : UInt64}
    (declared : fabric.declareClassIn record resource name priority qos provenance =
      .ok (cls, classes, nextClassId)) :
    nextClassId = fabric.nextClassId ∨ nextClassId = fabric.nextClassId + 1 := by
  rw [declareClassIn] at declared
  split at declared
  · cases declared
  · cases declared
    exact .inl rfl
  · split at declared
    · cases declared
    · cases declared
      exact .inr rfl

theorem declareClass_cases (fabric : Fabric J) (resource : ResourceId) (name : Text)
    (priority : UInt32) (qos : QosRef) (principal : OwnerId) (epoch : Epoch)
    (provenance : Provenance) :
    Refused fabric (fabric.declareClass resource name priority qos principal epoch provenance) ∨
      ∃ record cls classes nextClassId generation,
        fabric.findResource resource = some record ∧
        fabric.declareClassIn record resource name priority qos provenance =
          .ok (cls, classes, nextClassId) ∧ record.generation.next = .ok generation ∧
        let updated := { record with classes, generation }
        Recorded fabric .resourceState (encodeResourceState updated) { fabric with nextClassId }
          { fabric with
            nextClassId
            resources := fabric.resources.insert resource updated
            queues := invalidateBound updated resource cls fabric.queues } cls
          (fabric.declareClass resource name priority qos principal epoch provenance) := by
  rw [declareClass]
  split
  · exact .inl (refused_refuse _ _)
  split
  · exact .inl (refused_refuse _ _)
  split
  · exact .inl (refused_refuse _ _)
  split
  · exact .inl (refused_refuse _ _)
  rename_i record found
  split
  · exact .inl (refused_refuse _ _)
  split
  · exact .inl (refused_refuse _ _)
  rename_i cls classes nextClassId declared
  simp only []
  split
  · rename_i status _
    exact .inl ⟨⟨status, rfl⟩, .refl _, rfl, declareClassIn_next declared⟩
  · rename_i generation minted
    refine .inr ⟨record, cls, classes, nextClassId, generation, found, declared, minted, ?_⟩
    exact (publishClass_recorded { fabric with nextClassId } { record with classes, generation }
      resource cls).of_touch rfl (.refl _) (.refl _)

theorem declarePool_cases (fabric : Fabric J) (resource : ResourceId) (name : Text)
    (capacityBytes : UInt64) (principal : OwnerId) (epoch : Epoch) (provenance : Provenance) :
    Refused fabric (fabric.declarePool resource name capacityBytes principal epoch provenance) ∨
      ∃ record pool pools nextPoolId,
        fabric.findResource resource = some record ∧
        fabric.declarePoolIn record resource name capacityBytes provenance =
          .ok (pool, pools, nextPoolId) ∧
        Recorded fabric .resourceState (encodeResourceState { record with pools })
          { fabric with nextPoolId }
          { fabric with
            nextPoolId
            resources := fabric.resources.insert resource { record with pools } } pool
          (fabric.declarePool resource name capacityBytes principal epoch provenance) := by
  rw [declarePool]
  split
  · exact .inl (refused_refuse _ _)
  split
  · exact .inl (refused_refuse _ _)
  split
  · exact .inl (refused_refuse _ _)
  split
  · exact .inl (refused_refuse _ _)
  rename_i record found
  split
  · exact .inl (refused_refuse _ _)
  split
  · exact .inl (refused_refuse _ _)
  rename_i pool pools nextPoolId declared
  refine .inr ⟨record, pool, pools, nextPoolId, found, declared, ?_⟩
  have recorded : Recorded { fabric with nextPoolId } .resourceState
      (encodeResourceState { record with pools }) { fabric with nextPoolId }
      { fabric with
        nextPoolId
        resources := fabric.resources.insert resource { record with pools } } pool
      ({ fabric with nextPoolId }.publishResource { record with pools } resource
        "pool state is not durable" fun fabric =>
          fabric.announce pool (topologyEvent resource "pool declared")) := by
    apply publishResource_recorded
    intro middle touch
    obtain ⟨events, after, announced, kept, journal⟩ := announce_kept
      { middle with resources := middle.resources.insert resource { record with pools } } pool
      (topologyEvent resource "pool declared")
    exact ⟨events, after, announced,
      (touch.withResources (·.insert resource { record with pools })).trans kept, journal⟩
  exact recorded.of_touch rfl (.refl _) (.refl _)

theorem admitBackend_recorded (fabric : Fabric J) (record : ResourceRecord)
    (resource : ResourceId) (entry : BackendIncarnation) (now : Nanos) :
    let updated := { record with backends := record.backends ++ [entry] }
    let next := { fabric with
      nextBackendId := fabric.nextBackendId + 1
      resources := fabric.resources.insert resource updated }
    Recorded fabric .resourceState (encodeResourceState updated) next next entry.backend
      (fabric.admitBackend record resource entry now) := by
  intro updated next
  have recorded : Recorded next .resourceState (encodeResourceState updated) next next
      entry.backend (fabric.admitBackend record resource entry now) := by
    rw [admitBackend]
    refine (persist_persisted (J := J) _ _ _ _).recorded _ ?_
    intro middle touch
    exact ⟨_, _, rfl, touch.trans (emitted_touch _ _), rfl⟩
  exact recorded.of_touch rfl (.refl _) (.refl _)

/-- The checks a registration has passed before it is published. -/
structure Registrable (fabric : Fabric J) (resource : ResourceId) (incarnation : Incarnation)
    (principal : OwnerId) (epoch : Epoch) (provenance : Provenance) (record : ResourceRecord) :
    Prop where
  running : fabric.shuttingDown = false
  complete : provenance.valid = true
  identified : incarnation.valid = true
  found : fabric.findResource resource = some record
  authorized : authorize record.authority principal .declareTopology epoch record.applicability
    .active = none
  room : record.backends.length < fabric.config.limits.maxResources.toNat

/-- The registration a call makes now. -/
def registration (fabric : Fabric J) (resource : ResourceId) (incarnation : Incarnation) :
    BackendIncarnation :=
  ⟨⟨fabric.nextBackendId⟩, resource, incarnation, fabric.epoch, fabric.monotonicNow.1, true⟩

theorem registerBackend_split (fabric : Fabric J) (resource : ResourceId)
    (incarnation : Incarnation) (principal : OwnerId) (epoch : Epoch) (provenance : Provenance) :
    Refused fabric (fabric.registerBackend resource incarnation principal epoch provenance) ∧
        (∀ record, ¬ fabric.Registrable resource incarnation principal epoch provenance record) ∨
      ∃ record, fabric.Registrable resource incarnation principal epoch provenance record ∧
        fabric.registerBackend resource incarnation principal epoch provenance =
          fabric.monotonicNow.2.admitBackend record resource
            (fabric.registration resource incarnation) fabric.monotonicNow.1 := by
  rw [registerBackend]
  split
  · rename_i stopping
    exact .inl ⟨refused_refuse _ _, fun _ passed => by simp [passed.running] at stopping⟩
  rename_i running
  split
  · rename_i incomplete
    exact .inl ⟨refused_refuse _ _, fun _ passed => by simp [passed.complete] at incomplete⟩
  rename_i complete
  split
  · rename_i unidentified
    exact .inl ⟨refused_refuse _ _, fun _ passed => by simp [passed.identified] at unidentified⟩
  rename_i identified
  split
  · rename_i missing
    exact .inl ⟨refused_refuse _ _, fun _ passed => by simp [passed.found] at missing⟩
  rename_i record found
  split
  · rename_i refusal denied
    refine .inl ⟨refused_refuse _ _, fun other passed => ?_⟩
    have same : other = record := Option.some.inj (passed.found.symm.trans found)
    rw [← same, passed.authorized] at denied
    cases denied
  rename_i authorized
  rw [atNow]
  split
  · rename_i full
    refine .inl ⟨refused_now _ _, fun other passed => ?_⟩
    have same : other = record := Option.some.inj (passed.found.symm.trans found)
    have room := passed.room
    rw [same] at room
    exact absurd full (Nat.not_le_of_lt room)
  · rename_i room
    refine .inr ⟨record, ⟨by simpa using running, by simpa using complete, by simpa using identified,
      found, authorized, Nat.lt_of_not_le room⟩, rfl⟩

theorem registerBackend_cases (fabric : Fabric J) (resource : ResourceId)
    (incarnation : Incarnation) (principal : OwnerId) (epoch : Epoch) (provenance : Provenance) :
    Refused fabric (fabric.registerBackend resource incarnation principal epoch provenance) ∨
      ∃ record value, fabric.findResource resource = some record ∧
        let backends := record.backends ++ [fabric.registration resource incarnation]
        let next := { fabric with
          nextBackendId := fabric.nextBackendId + 1
          resources := fabric.resources.insert resource { record with backends } }
        Recorded fabric .resourceState (encodeResourceState { record with backends }) next next
          value (fabric.registerBackend resource incarnation principal epoch provenance) := by
  rcases registerBackend_split fabric resource incarnation principal epoch provenance with
    ⟨refused, _⟩ | ⟨record, passed, published⟩
  · exact .inl refused
  · have touch := ((monotonicNow_touch fabric).renumbered fun ids =>
      { ids with backend := ids.backend + 1 }).withResources
    have recorded := admitBackend_recorded fabric.monotonicNow.2 record resource
      (fabric.registration resource incarnation) fabric.monotonicNow.1
    rw [published]
    exact .inr ⟨record, _, passed.found, recorded.of_touch rfl (touch (·.insert resource _))
      (touch (·.insert resource _))⟩

theorem buryBackend_recorded (fabric : Fabric J) (key : ResourceId) (updated : ResourceRecord) :
    Recorded fabric .resourceState (encodeResourceState updated) fabric
      { fabric with resources := fabric.resources.insert key updated } ()
      (fabric.buryBackend key updated) := by
  refine (persistIfJournaled_persisted fabric _ _ _).recorded _ ?_
  intro middle touch
  obtain ⟨events, after, announced, kept, journal⟩ := announce_kept
    { middle with resources := middle.resources.insert key updated } () (burialEvent updated.id)
  exact ⟨events, after, announced, (touch.withResources (·.insert key updated)).trans kept, journal⟩

theorem markBackendDead_cases (fabric : Fabric J) (backend : BackendId)
    (incarnation : Incarnation) (principal : OwnerId) (epoch : Epoch) :
    Refused fabric (fabric.markBackendDead backend incarnation principal epoch) ∨
      ∃ key record, fabric.findResource key = some record ∧
        (fabric.resources.entries.find? fun entry =>
          entry.2.backends.any fun registered => registered.backend = backend) =
            some (key, record) ∧
        let backends := killBackend backend record.backends
        Recorded fabric .resourceState (encodeResourceState { record with backends }) fabric
          { fabric with resources := fabric.resources.insert key { record with backends } } ()
          (fabric.markBackendDead backend incarnation principal epoch) := by
  rw [markBackendDead]
  split
  · exact .inl (refused_refuse _ _)
  split
  · exact .inl (refused_refuse _ _)
  rename_i key record holder
  have found : fabric.findResource key = some record :=
    (Table.mem_entries_iff _ _ _).mp (List.mem_of_find?_eq_some holder)
  split
  · exact .inl (refused_refuse _ _)
  simp only []
  split
  · exact .inl (refused_refuse _ _)
  · exact .inr ⟨key, record, found, holder, buryBackend_recorded fabric key _⟩

/-! Governance. -/

theorem admitEpoch_cases (fabric : Fabric J) (epoch : Epoch) :
    Refused fabric (fabric.admitEpoch epoch) ∨
      Recorded fabric .epochState
        (encodeEpochState ⟨fabric.boot, epoch, fabric.coordinatorIncarnation⟩) fabric
        (fabric.enterEpoch epoch) epoch (fabric.admitEpoch epoch) := by
  rw [admitEpoch]
  split
  · exact .inl (refused_refuse _ _)
  · refine .inr ((persist_persisted fabric _ _ _).recorded _ ?_)
    intro middle touch
    obtain ⟨events, after, announced, kept, journal⟩ := announce_kept (middle.enterEpoch epoch)
      epoch (epochEvent epoch)
    refine ⟨events, after, announced, Touch.trans ?_ kept, journal⟩
    exact ⟨touch.config, touch.replaying, rfl, touch.provenance,
      congrArg (·.mapValues fun _ record => withEpoch epoch record) touch.resources,
      congrArg (·.mapValues fun _ queue => supersedeEpoch queue) touch.queues,
      touch.queueNames, touch.nextQueueId, touch.fenceTokens, touch.identities, touch.healthy⟩

theorem advanceEpoch_cases (fabric : Fabric J) (principal : OwnerId) (provenance : Provenance) :
    Refused fabric (fabric.advanceEpoch principal provenance) ∨
      ∃ epoch, fabric.epoch.next = .ok epoch ∧ fabric.healthy = true ∧
        Recorded fabric .epochState
          (encodeEpochState ⟨fabric.boot, epoch, fabric.coordinatorIncarnation⟩) fabric
          (fabric.enterEpoch epoch) epoch (fabric.advanceEpoch principal provenance) := by
  simp only [advanceEpoch]
  split
  · exact .inl (refused_refuse _ _)
  split
  · exact .inl (refused_refuse _ _)
  rename_i well
  split
  · exact .inl (refused_refuse _ _)
  split
  · exact .inl (refused_refuse _ _)
  split
  · exact .inl (refused_refuse _ _)
  · rename_i epoch minted
    rcases admitEpoch_cases fabric epoch with refused | recorded
    · exact .inl refused
    · exact .inr ⟨epoch, minted, by simpa using well, recorded⟩

omit [IJournal J] in
theorem invalidateEvidence_cases (fabric : Fabric J) (id : QueueId) (principal : OwnerId)
    (epoch : Epoch) (reason : Text) :
    Refused fabric (fabric.invalidateEvidence id principal epoch reason) ∨
      ∃ queue events after, fabric.findQueue id = some queue ∧
        fabric.invalidateEvidence id principal epoch reason = ⟨.ok (), events, after⟩ ∧
        Touch { fabric with queues := fabric.queues.insert id (invalidateQueue queue) } after ∧
        after.journal = fabric.journal := by
  rw [invalidateEvidence]
  split
  · exact .inl (refused_refuse _ _)
  rename_i queue found
  split
  · exact .inl (refused_refuse _ _)
  split
  · exact .inl (refused_refuse _ _)
  · refine .inr ⟨queue, _, _, found, rfl, ?_, rfl⟩
    exact ⟨rfl, rfl, rfl, rfl, rfl, rfl, rfl, rfl, rfl, rfl, fun well => well⟩

/-! Two-phase backend application. -/

theorem recordPlan_cases (fabric : Fabric J) (plan : BackendPlan) (provenance : Provenance) :
    Refused fabric (fabric.recordPlan plan provenance) ∨
      Recorded fabric .beginAttempt
        (encodeMutation (planMarker plan provenance .acknowledgeBackend)) fabric fabric plan
        (fabric.recordPlan plan provenance) := by
  rw [recordPlan]
  split
  · exact .inl (refused_refuse _ _)
  · refine .inr ((persist_persisted fabric _ _ _).recorded _ ?_)
    intro middle touch
    exact ⟨_, _, rfl, touch.trans ⟨rfl, rfl, rfl, rfl, rfl, rfl, rfl, rfl, rfl, rfl, id⟩, rfl⟩

/-- A reservation is refused, or it passes the gate and offers its begin record. -/
theorem planBackendApply_cases (fabric : Fabric J) (id : QueueId) (expected : Generation)
    (principal : OwnerId) (provenance : Provenance) :
    Refused fabric (fabric.planBackendApply id expected principal provenance) ∨
      fabric.provenance.classify provenance = .accepted ∧
        let gated := { fabric with provenance := (fabric.provenance.observe provenance).2 }
        (Refused gated (fabric.planBackendApply id expected principal provenance) ∨
          ∃ plan, Recorded gated .beginAttempt
            (encodeMutation (planMarker plan provenance .acknowledgeBackend)) gated gated plan
            (fabric.planBackendApply id expected principal provenance)) := by
  rw [planBackendApply]
  split
  · exact .inl (refused_refuse _ _)
  split
  · exact .inl (refused_refuse _ _)
  split
  · exact .inl (refused_refuse _ _)
  split
  · exact .inl (refused_refuse _ _)
  split
  · exact .inl (refused_refuse _ _)
  split
  · exact .inl (refused_refuse _ _)
  simp only []
  split
  · exact .inl (refused_refuse _ _)
  split
  · exact .inl (refused_refuse _ _)
  split
  · exact .inl (refused_refuse _ _)
  split
  · exact .inl (refused_refuse _ _)
  rename_i classified
  rw [ne_eq, not_not] at classified
  rw [atNow, admitPlan]
  split
  · exact .inl (refused_now _ _)
  refine .inr ⟨classified, ?_⟩
  have touch : Touch { fabric with provenance := (fabric.provenance.observe provenance).2 }
      { fabric.monotonicNow.2 with provenance := (fabric.provenance.observe provenance).2 } :=
    ⟨rfl, rfl, rfl, rfl, rfl, rfl, rfl, rfl, rfl, rfl, fun well => well⟩
  rw [reservePlan, orRefuse]
  split
  · exact .inl ((refused_refuse _ _).of_touch touch rfl)
  · rcases recordPlan_cases (J := J) _ _ provenance with refused | recorded
    · exact .inl (refused.of_touch touch rfl)
    · exact .inr ⟨_, recorded.of_touch rfl touch touch⟩

/-- How a plan is committed once its queue was found. -/
inductive CommitCase (fabric : Fabric J) (plan : BackendPlan) (queue : QueueRecord)
    (request : MutationRequest) : Reply J MutationOutcome → Prop
  | refused {reply : Reply J MutationOutcome} (refused : Refused fabric reply) :
      CommitCase fabric plan queue request reply
  | lost (status : Status) (events : List Event) (after : Fabric J) (touch : Touch fabric after)
      (written : Written .commitMutation (encodeMutation request) fabric.journal false
        after.journal) :
      CommitCase fabric plan queue request ⟨.error status, events, after⟩
  | served (middle : Fabric J) (now : Nanos) (reply : Reply J MutationOutcome)
      (events : List Event) (after : Fabric J) (touch : Touch fabric middle)
      (written : Written .commitMutation (encodeMutation request) fabric.journal true
        middle.journal)
      (ended : ExistingCase middle plan.queue queue request now reply)
      (final : Touch reply.fabric after) (journal : after.journal = reply.fabric.journal) :
      CommitCase fabric plan queue request ⟨reply.result, events, after⟩

theorem acknowledgePlan_served (fabric : Fabric J) (plan : BackendPlan) (queue : QueueRecord)
    (request : MutationRequest) :
    ∃ now reply events after,
      ExistingCase fabric.monotonicNow.2 plan.queue queue request now reply ∧
      fabric.acknowledgePlan plan queue request = ⟨reply.result, events, after⟩ ∧
      Touch reply.fabric after ∧ after.journal = reply.fabric.journal := by
  have ended := applyExistingLocked_cases fabric.monotonicNow.2 plan.queue queue request
    fabric.monotonicNow.1
  rw [acknowledgePlan, atNow]
  simp only []
  generalize fabric.monotonicNow.2.applyExistingLocked plan.queue queue request
    fabric.monotonicNow.1 = reply at ended
  split
  · rename_i outcome succeeded
    refine ⟨_, reply, reply.events, (reply.fabric.release plan.attempt).emitted reply.events,
      ended, ?_, ⟨rfl, rfl, rfl, rfl, rfl, rfl, rfl, rfl, rfl, rfl, id⟩, rfl⟩
    rw [succeeded]
    rfl
  · rename_i status failed
    refine ⟨_, reply, reply.events, reply.fabric.emitted reply.events, ended, ?_,
      emitted_touch _ _, rfl⟩
    rw [failed]
    rfl

theorem commitPlan_cases (fabric : Fabric J) (plan : BackendPlan) (queue : QueueRecord)
    (request : MutationRequest) :
    CommitCase fabric plan queue request (fabric.commitPlan plan queue request) := by
  rw [commitPlan]
  split
  · exact .refused (refused_refuse _ _)
  · have persisted := persist_persisted fabric .commitMutation (encodeMutation request)
      "commit marker did not reach stable storage"
    rw [orRefuse]
    have written := persisted.written
    split
    · rename_i failed
      simp only [Bool.not_eq_true'] at failed
      rw [failed] at written
      exact .lost _ _ _ persisted.touch written
    · rename_i succeeded
      simp only [Bool.not_eq_true', Bool.not_eq_false] at succeeded
      rw [succeeded] at written
      obtain ⟨now, reply, events, after, ended, equation, final, journal⟩ :=
        acknowledgePlan_served (fabric.persist .commitMutation (encodeMutation request)
          "commit marker did not reach stable storage").2 plan queue request
      rw [equation]
      exact .served _ now reply events after
        (persisted.touch.trans (monotonicNow_touch _)) written ended final journal

theorem commitBackendApply_cases (fabric : Fabric J) (plan : BackendPlan)
    (applied : BackendApplied) (provenance : Provenance) :
    Refused fabric (fabric.commitBackendApply plan applied provenance) ∨
      ∃ queue, fabric.findQueue plan.queue = some queue ∧
        CommitCase fabric plan queue (fabric.planRequest plan applied provenance)
          (fabric.commitBackendApply plan applied provenance) := by
  rw [commitBackendApply]
  split
  · exact .inl (refused_refuse _ _)
  split
  · exact .inl (refused_refuse _ _)
  split
  · exact .inl (refused_refuse _ _)
  rename_i queue found
  split
  · exact .inl (refused_refuse _ _)
  split
  · exact .inl (refused_refuse _ _)
  · exact .inr ⟨queue, found, commitPlan_cases fabric plan queue _⟩

theorem abortBackendApply_cases (fabric : Fabric J) (plan : BackendPlan) (reason : Text) :
    Refused fabric (fabric.abortBackendApply plan reason) ∨
      Recorded fabric .commitMutation
        (encodeMutation (planMarker plan (markerProvenance plan) .noOp)) fabric fabric ()
        (fabric.abortBackendApply plan reason) := by
  rw [abortBackendApply]
  split
  · exact .inl (refused_refuse _ _)
  simp only []
  split
  · exact .inl (refused_refuse _ _)
  · refine .inr ((persistIfJournaled_persisted fabric _ _ _).recorded _ ?_)
    intro middle touch
    obtain ⟨events, after, announced, kept, journal⟩ := announce_kept
      (middle.release plan.attempt) () (abortedEvent plan reason)
    have released : Touch middle (middle.release plan.attempt) :=
      ⟨rfl, rfl, rfl, rfl, rfl, rfl, rfl, rfl, rfl, rfl, id⟩
    exact ⟨events, after, announced, (touch.trans released).trans kept, journal⟩

/-! Explanations and maintenance. -/

omit [IJournal J] in
theorem explain_cases (fabric : Fabric J) (id : QueueId) (principal : OwnerId) :
    Touch fabric (fabric.explain id principal).fabric ∧
      (fabric.explain id principal).fabric.journal = fabric.journal := by
  rw [explain]
  split
  · exact ⟨.refl fabric, rfl⟩
  · exact ⟨⟨rfl, rfl, rfl, rfl, rfl, rfl, rfl, rfl, rfl, rfl, fun well => well⟩, rfl⟩

omit [IJournal J] in
theorem refreshFreshness_cases (fabric : Fabric J) :
    Refused fabric fabric.refreshFreshness ∨
      ∃ now, Touch { fabric with
          queues := fabric.queues.mapValues fun _ queue =>
            refreshQueueLocked fabric.config queue now } fabric.refreshFreshness.fabric ∧
        fabric.refreshFreshness.fabric.journal = fabric.journal := by
  rw [refreshFreshness]
  split
  · exact .inl (refused_refuse _ _)
  · exact .inr ⟨fabric.monotonicNow.1, ⟨rfl, rfl, rfl, rfl, rfl, rfl, rfl, rfl, rfl, rfl, id⟩, rfl⟩

theorem compact_cases (fabric : Fabric J) :
    Refused fabric fabric.compact ∨
      ∃ journal, fabric.journal = some journal ∧
        let rewritten := IJournal.rewrite journal fabric.buildSnapshotLocked
        Touch fabric fabric.compact.fabric ∧ fabric.compact.fabric.journal = some rewritten.2 := by
  rw [compact]
  split
  · exact .inl (refused_refuse _ _)
  rename_i journal present
  split
  · exact .inl (refused_refuse _ _)
  split
  · exact .inl (refused_refuse _ _)
  · refine .inr ⟨journal, present, ?_⟩
    simp only [orRefuse]
    split
    · exact ⟨⟨rfl, rfl, rfl, rfl, rfl, rfl, rfl, rfl, rfl, rfl, id⟩, rfl⟩
    · exact ⟨⟨rfl, rfl, rfl, rfl, rfl, rfl, rfl, rfl, rfl, rfl, id⟩, rfl⟩

theorem shutdown_cases (fabric : Fabric J) :
    Touch fabric fabric.shutdown.fabric ∧
      (fabric.shutdown.fabric.journal = fabric.journal ∨
        fabric.shutdown.fabric.journal =
          fabric.journal.map fun journal => (IJournal.sync journal).2) := by
  rw [shutdown]
  split
  · exact ⟨.refl fabric, .inl rfl⟩
  · exact ⟨⟨rfl, rfl, rfl, rfl, rfl, rfl, rfl, rfl, rfl, rfl, id⟩, .inr rfl⟩

/-! The writes that end a recovery. -/

theorem appendEpochStateLocked_touch (fabric : Fabric J) (journal : J) :
    Touch fabric (fabric.appendEpochStateLocked journal).2 := by
  simp only [appendEpochStateLocked]
  split
  · exact .refl fabric
  split
  · exact ⟨rfl, rfl, rfl, rfl, rfl, rfl, rfl, rfl, rfl, rfl, id⟩
  split
  · exact ⟨rfl, rfl, rfl, rfl, rfl, rfl, rfl, rfl, rfl, rfl, id⟩
  · exact ⟨rfl, rfl, rfl, rfl, rfl, rfl, rfl, rfl, rfl, rfl, id⟩

theorem dropTornTail_touch (fabric : Fabric J) (journal : J) :
    Touch fabric (fabric.dropTornTail journal).1 := by
  rw [dropTornTail]
  split
  · exact ⟨rfl, rfl, rfl, rfl, rfl, rfl, rfl, rfl, rfl, rfl, id⟩
  · exact .refl fabric

omit [IJournal J] in
theorem Touch.healed {before after : Fabric J} (touch : Touch before after) :
    Touch { before with healthy := true } { after with healthy := true } :=
  ⟨touch.config, touch.replaying, touch.epoch, touch.provenance, touch.resources, touch.queues,
    touch.queueNames, touch.nextQueueId, touch.fenceTokens, touch.identities, id⟩

omit [IJournal J] in
theorem failRecovery_touch (fabric : Fabric J) (status : Status) :
    Touch { fabric with healthy := true } (fabric.failRecovery status).fabric :=
  ⟨rfl, rfl, rfl, rfl, rfl, rfl, rfl, rfl, rfl, rfl, fun _ => rfl⟩

omit [IJournal J] in
theorem concludeRecovery_touch (fabric : Fabric J) :
    Touch { fabric with healthy := true } fabric.concludeRecovery.fabric :=
  ⟨rfl, rfl, rfl, rfl, rfl, rfl, rfl, rfl, rfl, rfl, fun _ => rfl⟩

theorem sealRecovery_touch (fabric : Fabric J) (journal : J) :
    Touch { fabric with healthy := true } (fabric.sealRecovery journal).fabric := by
  have written := (appendEpochStateLocked_touch fabric journal).healed
  simp only [sealRecovery]
  split
  · exact written.trans (failRecovery_touch _ _)
  · exact written.trans (concludeRecovery_touch _)

/-- The end of a recovery moves the journal and the report, nothing else. -/
theorem finishRecovery_touch (fabric : Fabric J) (journal : J) :
    Touch { fabric with healthy := true } (fabric.finishRecovery journal).fabric := by
  have start : Touch fabric
      { fabric with journal := some (IJournal.writeHeader journal fabric.boot fabric.epoch).2 } :=
    ⟨rfl, rfl, rfl, rfl, rfl, rfl, rfl, rfl, rfl, rfl, id⟩
  simp only [finishRecovery]
  split
  · exact start.healed.trans (failRecovery_touch _ _)
  · exact (start.trans (dropTornTail_touch _ _)).healed.trans (sealRecovery_touch _ _)

theorem closeRecovery_touch (fabric : Fabric J) :
    Touch { fabric with healthy := true } fabric.closeRecovery.fabric := by
  rw [closeRecovery]
  split
  · exact finishRecovery_touch fabric _
  · exact ⟨rfl, rfl, rfl, rfl, rfl, rfl, rfl, rfl, rfl, rfl, fun _ => rfl⟩

end Fabric

end QueueFabric
